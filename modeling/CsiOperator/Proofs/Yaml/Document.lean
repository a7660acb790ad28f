import CsiOperator.Proofs.Yaml.Records
import CsiOperator.Yaml.Tree

/-! The tokens of a list of maps are read as that list of maps. -/

namespace CsiOperator.Yaml

namespace Node

variable {α β : Type}

/-- A step comes to a value with the tokens that it uses, which are followed by others. -/
def Builds (step : Build α) (value : α) (used rest : List Token) : Prop :=
    -- Anchors, open flows and faults play no part, and only the number of events may grow.
  ∀ handles events, ∃ events', step ⟨used ++ rest, handles, [], [], events, false⟩ =
    (value, ⟨rest, handles, [], [], events', false⟩)

/-- One step after another uses the tokens of both. -/
theorem Builds.bind {step : Build α} {next : α → Build β} {first : α} {second : β}
    {used used' rest : List Token} (builds : Builds step first used (used' ++ rest))
    (later : Builds (next first) second used' rest) :
    Builds (step >>= next) second (used ++ used') rest := by
  -- The second step goes on with the handles and the events that the first one leaves.
  intro handles events
  obtain ⟨mid, reads⟩ := builds handles events
  obtain ⟨done, reads'⟩ := later handles mid
  refine ⟨done, ?_⟩
  -- The tokens of the second step are part of what follows the first one.
  rw [List.append_assoc]
  show (let (a, s) := step _; next a s) = _
  rw [reads]
  exact reads'

/-- What is made of a value uses no further token. -/
theorem Builds.map {step : Build α} {value : α} {used rest : List Token} (f : α → β)
    (builds : Builds step value used rest) : Builds (do return f (← step)) (f value) used rest := by
  -- The value is made without looking at the tokens.
  have none : Builds (Pure.pure (f value) : Build β) (f value) [] rest :=
    fun _ events => ⟨events, rfl⟩
  have both : Builds (do return f (← step)) (f value) (used ++ []) rest := builds.bind none
  rwa [List.append_nil] at both

/-- A node that is there is read where it could be left out. -/
theorem Builds.nodeOrEmpty {follows : Token → Bool} {step : Build Node} {value : Node} {t : Token}
    {used rest : List Token} (there : follows t = false) (builds : Builds step value (t :: used) rest) :
    Builds (nodeOrEmpty follows step) value (t :: used) rest := by
  -- The first token does not follow the node, so there is a node.
  intro handles events
  obtain ⟨done, reads⟩ := builds handles events
  refine ⟨done, ?_⟩
  rw [← reads]
  -- The first token tells that there is a node, and nothing else is looked at.
  show (if follows t then emptyScalar else step) _ = _
  rw [there]
  rfl

/-- A node that is there is read after the mark of a value. -/
theorem Builds.valueOrEmpty {follows : Token → Bool} {step : Build Node} {value : Node} {t : Token}
    {used rest : List Token} (there : follows t = false) (builds : Builds step value (t :: used) rest) :
    Builds (valueOrEmpty follows step) value (.value :: t :: used) rest :=
  (builds.nodeOrEmpty there : _)

/-- One node after another. -/
theorem Builds.andThen {first : Build Node} {more : Build (List Node)} {node : Node}
    {nodes : List Node} {used used' rest : List Token} (builds : Builds first node used (used' ++ rest))
    (later : Builds more nodes used' rest) :
    Builds (andThen first more) (node :: nodes) (used ++ used') rest :=
  builds.bind (later.map (node :: ·))

/-- A key, its value and the entries after them. -/
theorem Builds.entryThen {key value : Build Node} {more : Build (List (Node × Node))} {k v : Node}
    {entries : List (Node × Node)} {used used' used'' rest : List Token}
    (builds : Builds key k used (used' ++ (used'' ++ rest)))
    (builds' : Builds value v used' (used'' ++ rest)) (later : Builds more entries used'' rest) :
    Builds (entryThen key value more) ((k, v) :: entries) (used ++ (used' ++ used'')) rest := by
  -- Between a value and the next key the builder only checks that it has not been stopped.
  have both : Builds (do
      let v ← value
      if ← isStopped then return [(k, v)]
      return (k, v) :: (← more)) ((k, v) :: entries) (used' ++ used'') rest :=
    builds'.bind (later.map ((k, v) :: ·))
  rw [← List.append_assoc] at builds
  exact builds.bind both

/-- A scalar is a node. -/
theorem builds_scalar {fuel : Nat} (enough : 2 ≤ fuel) (block indentless : Bool) (text : String)
    (plain : Bool) (rest : List Token) :
    Builds (node fuel block indentless) (.scalar ⟨text, plain, none⟩) [.scalar text plain] rest := by
  -- One unit of fuel is for the node, and one for what stands in it.
  obtain ⟨fuel, rfl⟩ : ∃ n, fuel = n + 2 := ⟨fuel - 2, by omega⟩
  exact fun _ events => ⟨events + 1, rfl⟩

/-- The items of a list begin a node where a list may be indented like its key. -/
theorem builds_indentless {fuel : Nat} (block : Bool) {nodes : List Node} {used rest : List Token}
    (builds : Builds (indentlessItems fuel) nodes (.blockEntry :: used) rest) :
    Builds (node (fuel + 2) block true) (.list none nodes) (.blockEntry :: used) rest := by
  -- The items are counted from the event that opens their list.
  intro handles events
  obtain ⟨done, reads⟩ := builds handles (events + 1)
  refine ⟨done, ?_⟩
  -- A node that begins with an item is a list without a mark of its own.
  show (let (nodes, p) := indentlessItems fuel ⟨.blockEntry :: used ++ rest, handles, [], [],
    events + 1, false⟩; (Node.list none nodes, p)) = _
  rw [reads]

/-- The texts of a list are read up to what may follow it. -/
theorem builds_texts (items : List String) {rest : List Token}
    (ends : rest.head? = some .key ∨ rest.head? = some .blockEnd) {fuel : Nat}
    (enough : items.length + 3 ≤ fuel) :
    Builds (indentlessItems fuel) (items.map fun s => .scalar ⟨s, Style.of s == .plain, none⟩)
      (Written.tokens (.texts items)) rest := by
  -- Every item takes one unit of fuel, and there is always enough left for the scalar in it.
  induction items generalizing fuel with
  | nil =>
    obtain ⟨fuel, rfl⟩ : ∃ n, fuel = n + 1 := ⟨fuel - 1, by omega⟩
    -- Without an item at the front the list ends, and the next token is left for the map around it.
    cases rest with
    | nil => simp at ends
    | cons t rest =>
      rcases ends with ends | ends
      all_goals
        obtain rfl := Option.some.inj ends
        exact fun _ events => ⟨events + 1, rfl⟩
  | cons s items ih =>
    obtain ⟨fuel, rfl⟩ : ∃ n, fuel = n + 1 := ⟨fuel - 1, by omega⟩
    rw [List.length_cons] at enough
    have node : Builds (nodeOrEmpty followsIndentlessItem (node fuel true false)) _
        [Token.ofText s] (Written.tokens (.texts items) ++ rest) :=
      (builds_scalar (by omega : 2 ≤ fuel) true false s (Style.of s == .plain) _).nodeOrEmpty rfl
    have both := node.andThen (ih (by omega : items.length + 3 ≤ fuel))
    -- The mark of the item is taken first, and then both parts are read as one step.
    intro handles events
    exact both handles events

/-- A map that is indented is read from its keys and values. -/
theorem builds_block {fuel : Nat} (indentless : Bool) {entries : List (Node × Node)}
    {used rest : List Token} (builds : Builds (blockEntries fuel) entries used rest) :
    Builds (node (fuel + 2) true indentless) (.mapping none entries) (.blockMappingStart :: used)
      rest := by
  -- The entries are counted from the event that opens their map.
  intro handles events
  obtain ⟨done, reads⟩ := builds handles (events + 1)
  refine ⟨done, ?_⟩
  -- The mark at the front opens the map, and its end is read with the entries.
  show (let (entries, p) := blockEntries fuel ⟨used ++ rest, handles, [], [], events + 1, false⟩;
    (Node.mapping none entries, p)) = _
  rw [reads]

/-- A list that is indented is read from its items. -/
theorem builds_list {fuel : Nat} (indentless : Bool) {items : List Node} {used rest : List Token}
    (builds : Builds (blockItems fuel) items used rest) :
    Builds (node (fuel + 2) true indentless) (.list none items) (.blockSequenceStart :: used)
      rest := by
  -- The items are counted from the event that opens their list.
  intro handles events
  obtain ⟨done, reads⟩ := builds handles (events + 1)
  refine ⟨done, ?_⟩
  -- The mark at the front opens the list, and its end is read with the items.
  show (let (items, p) := blockItems fuel ⟨used ++ rest, handles, [], [], events + 1, false⟩;
    (Node.list none items, p)) = _
  rw [reads]

end Node

namespace Written

/-- Each text of a list has two tokens. -/
theorem length_tokens (items : List String) : (tokens (.texts items)).length = 2 * items.length := by
  -- By induction on the texts of the list.
  induction items with
  | nil => rfl
  | cons s items ih =>
    -- A text is one mark and one scalar, so the length grows by two.
    simp only [tokens, List.flatMap_cons, List.length_append, List.length_cons, List.length_nil] at ih ⊢
    omega

/-- The node of a text. -/
def textNode (s : String) : Node :=
  .scalar ⟨s, Style.of s == .plain, none⟩

/-- The node of what stands under a key. -/
def node : Written → Node
  -- A list is written without a tag of its own.
  | .text s => textNode s
  | .texts items => .list none (items.map textNode)

/-- The node of a map. -/
def recordNode (record : List (String × Written)) : Node :=
  .mapping none (record.map fun e => (.scalar ⟨e.1, true, none⟩, e.2.node))

end Written

namespace Node

/-- What stands under a key is read up to the next key. -/
theorem builds_value {value : Written} (there : value ≠ .texts []) {rest : List Token}
    (ends : rest.head? = some .key ∨ rest.head? = some .blockEnd) {fuel : Nat}
    (enough : value.tokens.length + 5 ≤ fuel) :
    Builds (valueOrEmpty followsBlockNode (node fuel true true)) value.node (.value :: value.tokens)
      rest := by
  -- A text is one scalar, and a list has its items under the key.
  cases value with
  | text s =>
    exact (builds_scalar (by omega : 2 ≤ fuel) true true s (Style.of s == .plain) rest).valueOrEmpty rfl
  | texts items =>
    -- A list that is empty is written in brackets, so this one has a first item at the front.
    obtain ⟨first, more, rfl⟩ := List.exists_cons_of_ne_nil (mt (congrArg Written.texts) there)
    obtain ⟨fuel, rfl⟩ : ∃ n, fuel = n + 2 := ⟨fuel - 2, by omega⟩
    rw [Written.length_tokens] at enough
    have items := builds_texts (first :: more) ends (by omega : (first :: more).length + 3 ≤ fuel)
    exact (builds_indentless true items).valueOrEmpty rfl

/-- The keys of a map are read with their values. -/
theorem builds_entries {record : List (String × Written)} (there : ∀ e ∈ record, e.2 ≠ .texts [])
    (rest : List Token) {fuel : Nat}
    (enough : (record.flatMap Written.entryTokens).length + 6 ≤ fuel) :
    Builds (blockEntries fuel) (record.map fun e => (.scalar ⟨e.1, true, none⟩, e.2.node))
      (record.flatMap Written.entryTokens ++ [.blockEnd]) rest := by
  -- The induction is on the entries, each of which takes one unit of fuel of its own.
  induction record generalizing fuel with
  | nil =>
    obtain ⟨fuel, rfl⟩ : ∃ n, fuel = n + 1 := ⟨fuel - 1, by omega⟩
    exact fun _ events => ⟨events + 1, rfl⟩
  | cons e record ih =>
    obtain ⟨first, others⟩ := List.forall_mem_cons.mp there
    obtain ⟨fuel, rfl⟩ : ∃ n, fuel = n + 1 := ⟨fuel - 1, by omega⟩
    simp only [List.flatMap_cons, List.length_append, Written.entryTokens, List.length_cons] at enough
    -- What comes after the entry gets a name, so that it is not taken apart.
    obtain ⟨later, isLater⟩ : ∃ later : List Token,
        later = record.flatMap Written.entryTokens ++ [.blockEnd] := ⟨_, rfl⟩
    -- A value that is a list ends at the next key or at the end of the map.
    have ends : (later ++ rest).head? = some .key ∨ (later ++ rest).head? = some .blockEnd := by
      rw [isLater]
      cases record with
      | nil => exact .inr rfl
      | cons e record => exact .inl rfl
    have key : Builds (nodeOrEmpty followsBlockNode (node fuel true true)) _ [.scalar e.1 true]
        ((.value :: e.2.tokens) ++ (later ++ rest)) :=
      (builds_scalar (by omega : 2 ≤ fuel) true true e.1 true _).nodeOrEmpty rfl
    have value := builds_value first ends (by omega : e.2.tokens.length + 5 ≤ fuel)
    have more := ih others (by omega : (record.flatMap Written.entryTokens).length + 6 ≤ fuel)
    rw [← isLater] at more
    have all := key.entryThen value more
    -- The mark of the key comes before all of it.
    have marked : Builds (blockEntries (fuel + 1)) _
        (.key :: ([.scalar e.1 true] ++ ((.value :: e.2.tokens) ++ later))) rest := all
    simpa [isLater, Written.entryTokens] using marked

/-- The maps of a list are read one after another. -/
theorem builds_records {items : List (List (String × Written))}
    (sound : ∀ r ∈ items, Written.Sound r) (rest : List Token) {fuel : Nat}
    (enough : (items.flatMap Written.recordTokens).length + 6 ≤ fuel) :
    Builds (blockItems fuel) (items.map Written.recordNode)
      (items.flatMap Written.recordTokens ++ [.blockEnd]) rest := by
  -- The induction is on the maps, each of which is one item of the list.
  induction items generalizing fuel with
  | nil =>
    obtain ⟨fuel, rfl⟩ : ∃ n, fuel = n + 1 := ⟨fuel - 1, by omega⟩
    exact fun _ events => ⟨events + 1, rfl⟩
  | cons record items ih =>
    obtain ⟨first, others⟩ := List.forall_mem_cons.mp sound
    obtain ⟨fuel, rfl⟩ : ∃ n, fuel = n + 3 := ⟨fuel - 3, by omega⟩
    simp only [List.flatMap_cons, List.length_append, Written.recordTokens, List.length_cons,
      List.length_nil] at enough
    -- What comes after the map gets a name, so that it is not taken apart.
    obtain ⟨later, isLater⟩ : ∃ later : List Token,
        later = items.flatMap Written.recordTokens ++ [.blockEnd] := ⟨_, rfl⟩
    have entries := builds_entries (fun e member => (first.entries e member).2) (later ++ rest)
      (by omega : (record.flatMap Written.entryTokens).length + 6 ≤ fuel)
    have node : Builds (nodeOrEmpty followsItem (node (fuel + 2) true false))
        (Written.recordNode record) _ (later ++ rest) := (builds_block false entries).nodeOrEmpty rfl
    have more := ih others (by omega : (items.flatMap Written.recordTokens).length + 6 ≤ fuel + 2)
    rw [← isLater] at more
    have all := node.andThen more
    -- The mark of the item and that of the map come before its entries.
    have marked : Builds (blockItems (fuel + 3)) _ (.blockEntry :: ((.blockMappingStart ::
        (record.flatMap Written.entryTokens ++ [.blockEnd])) ++ later)) rest := all
    simpa [isLater, Written.recordTokens] using marked

end Node

/-- The only document of a list of maps is that list. -/
theorem ofText_records {items : List (List (String × Written))} (some' : items ≠ [])
    (sound : ∀ r ∈ items, Written.Sound r) :
    ∃ events, Document.ofText (Written.records items) =
      ⟨some (.list none (items.map Written.recordNode)), [], events, true⟩ := by
  -- The tokens of the list get a name, so that only their number matters for the fuel.
  obtain ⟨used, isUsed⟩ : ∃ used : List Token,
      used = items.flatMap Written.recordTokens ++ [.blockEnd] := ⟨_, rfl⟩
  have all : Written.recordsTokens items = .blockSequenceStart :: (used ++ [.streamEnd]) := by
    simp [Written.recordsTokens, isUsed]
  have count : (items.flatMap Written.recordTokens).length + 1 = used.length := by simp [isUsed]
  have builds := Node.builds_records sound [.streamEnd]
    (by omega : (items.flatMap Written.recordTokens).length + 6 ≤ 2 * (used.length + 2) + 2)
  rw [← isUsed] at builds
  obtain ⟨events, reads⟩ := Node.builds_list false builds Document.defaultHandles 0
  -- The fuel is twice the number of tokens and four more, which is enough.
  have fuel : 2 * (Token.blockSequenceStart :: (used ++ [.streamEnd])).length + 4 =
      2 * (used.length + 2) + 2 + 2 := by
    simp
  -- Without a directive in front the first document begins at once.
  have plain : Document.ofTokens (.blockSequenceStart :: (used ++ [.streamEnd])) =
      Document.ofNodeTokens Document.defaultHandles false
        (.blockSequenceStart :: (used ++ [.streamEnd])) := rfl
  refine ⟨events, ?_⟩
  rw [Document.ofText, tokens_records some' sound, all, plain, Document.ofNodeTokens, fuel]
  simp only [Bool.false_eq_true, if_false, StateT.run]
  rw [show Token.blockSequenceStart :: (used ++ [.streamEnd]) =
    (.blockSequenceStart :: used) ++ [.streamEnd] from rfl, reads]
  rfl

namespace Tree

variable {slots : List (Nat × Node)}

/-- Scalars are read at any depth. -/
theorem ofNode_scalar (depth : Nat) (s : Scalar) :
    ofNode slots depth (.scalar s) = pure (.scalar s) := by
  cases depth <;> rfl

/-- Where what stands for each item is read, so is what stands for all of them. -/
theorem mapM_pure {α β γ : Type} {read : β → StateM Nat γ} {node : α → β} {tree : α → γ}
    {items : List α} (reads : ∀ x ∈ items, read (node x) = pure (tree x)) :
    (items.map node).mapM read = pure (items.map tree) := by
  -- By induction on the items, none of which changes the count.
  induction items with
  | nil => rfl
  | cons x items ih =>
    obtain ⟨first, others⟩ := List.forall_mem_cons.mp reads
    rw [List.map_cons, List.mapM_cons, first, ih others]
    rfl

/-- A list is read from its items, one level deeper. -/
theorem ofNode_list {α : Type} {depth : Nat} {node : α → Node} {tree : α → Tree} {items : List α}
    (reads : ∀ x ∈ items, ofNode slots depth (node x) = pure (tree x)) (tag : Option String) :
    ofNode slots (depth + 1) (.list tag (items.map node)) = pure (.list tag (items.map tree)) := by
  -- The items are read one by one, a level below the list.
  have all := mapM_pure reads
  show ((items.map node).mapM (ofNode slots depth) >>= fun trees => pure (Tree.list tag trees)) = _
  rw [all]
  rfl

/-- A map is read from its keys and values, one level deeper. -/
theorem ofNode_mapping {α : Type} {depth : Nat} {key value : α → Node} {keyTree valueTree : α → Tree}
    {entries : List α}
    (reads : ∀ e ∈ entries, ofNode slots depth (key e) = pure (keyTree e) ∧
      ofNode slots depth (value e) = pure (valueTree e)) (tag : Option String) :
    ofNode slots (depth + 1) (.mapping tag (entries.map fun e => (key e, value e))) =
      pure (.mapping tag (entries.map fun e => (keyTree e, valueTree e))) := by
  -- A key and its value are read together, and nothing is remembered in between.
  have all : ((entries.map fun e => (key e, value e)).mapM fun entry => do
      let key ← ofNode slots depth entry.1
      return (key, ← ofNode slots depth entry.2)) =
        pure (entries.map fun e => (keyTree e, valueTree e)) := by
    refine mapM_pure fun e member => ?_
    obtain ⟨first, second⟩ := reads e member
    dsimp only
    rw [first, second]
    rfl
  show (((entries.map fun e => (key e, value e)).mapM fun entry => do
      let key ← ofNode slots depth entry.1
      return (key, ← ofNode slots depth entry.2)) >>= fun trees => pure (Tree.mapping tag trees)) = _
  rw [all]
  rfl

end Tree

namespace Written

/-- The tree of a text. -/
def textTree (s : String) : Tree :=
  .scalar ⟨s, Style.of s == .plain, none⟩

/-- The tree of what stands under a key. -/
def tree : Written → Tree
  | .text s => textTree s
  | .texts items => .list none (items.map textTree)

/-- The tree of a map. -/
def recordTree (record : List (String × Written)) : Tree :=
  .mapping none (record.map fun e => (.scalar ⟨e.1, true, none⟩, e.2.tree))

/-- What stands under a key is read as its tree. -/
theorem ofNode_node (slots : List (Nat × Node)) (depth : Nat) (value : Written) :
    Tree.ofNode slots (depth + 1) value.node = pure value.tree := by
  -- A text stands for itself, and a list for its texts a level below.
  cases value with
  | text s => exact Tree.ofNode_scalar (depth + 1) _
  | texts items => exact Tree.ofNode_list (fun s _ => Tree.ofNode_scalar depth _) none

/-- A map is read as its tree. -/
theorem ofNode_record (slots : List (Nat × Node)) (depth : Nat) (record : List (String × Written)) :
    Tree.ofNode slots (depth + 2) (recordNode record) = pure (recordTree record) :=
  Tree.ofNode_mapping (fun e _ => ⟨Tree.ofNode_scalar (depth + 1) _, ofNode_node slots depth e.2⟩) none

/-- A list of maps is read as the trees of the maps, and the text ends with it. -/
theorem tree_records {items : List (List (String × Written))}
    (sound : ∀ r ∈ items, Sound r) :
    Tree.ofDocument (Document.ofText (records items)) = .list none (items.map recordTree) ∧
      (Document.ofText (records items)).complete = true := by
  -- An empty list has a text of its own; any other one is read from its items.
  cases items with
  | nil =>
    -- A list without maps is written in brackets, which are read by themselves.
    have brackets : Yaml.tokens "[]\n" = [.flowSequenceStart, .flowSequenceEnd, .streamEnd] := by decide
    have document : Document.ofText "[]\n" = ⟨some (.list none []), [], 2, true⟩ := by
      rw [Document.ofText, brackets]
      rfl
    have written : records [] = "[]\n" := rfl
    rw [written, document]
    exact ⟨rfl, rfl⟩
  | cons first more =>
    obtain ⟨events, document⟩ := ofText_records (List.cons_ne_nil first more) sound
    -- Maps in a list are two levels deep, and so the greatest depth is never reached.
    have tree : Tree.ofNode [] Tree.maxDepth (.list none ((first :: more).map recordNode)) =
        pure (.list none ((first :: more).map recordTree)) :=
      Tree.ofNode_list (fun record _ => ofNode_record [] 125 record) none
    rw [document]
    refine ⟨?_, rfl⟩
    simp only [Tree.ofDocument, tree]
    rfl

end Written

end CsiOperator.Yaml
