import CsiOperator.Yaml.Token

/-! YAML tokens as a graph of nodes, in which an alias points to the node it repeats. -/

namespace CsiOperator.Yaml

/-- A scalar as it is written. -/
structure Scalar where
  /-- Its text. -/
  text : String
  /-- It is written without quotes and without a block mark. -/
  plain : Bool
  /-- Its tag, if it has one. -/
  tag : Option String
  deriving DecidableEq, Repr, Inhabited

/-- A node of a document. Where the grammar is violated the node ends in a `cut`. -/
inductive Node where
  /-- A scalar. -/
  | scalar (scalar : Scalar)
  /-- A list. -/
  | list (tag : Option String) (items : List Node)
  /-- A map with its keys in the order of the text. -/
  | mapping (tag : Option String) (entries : List (Node × Node))
  /-- A node given elsewhere. -/
  | alias (slot : Nat)
  /-- The end of what can be read. -/
  | cut
  deriving Repr, Inhabited

namespace Node

/-- The nodes of a document as far as its tokens have been used. -/
structure Progress where
  /-- The tokens left. -/
  tokens : List Token
  /-- The front parts of tags by their short names. -/
  handles : List (String × String)
  /-- The slots of the anchors that are bound. -/
  anchors : List (String × Nat)
  /-- The nodes in slots, each with the count of nodes that began before it. -/
  slots : List (Nat × Nat × Node)
  /-- The count of scalars, of aliases, and of the two ends of lists and maps. -/
  events : Nat
  /-- The grammar has been violated. -/
  stopped : Bool

/-- A step that uses tokens. -/
abbrev Build := StateM Progress

/-- The next token, which is left in place. -/
def peek : Build (Option Token) := do
  return (← get).tokens.head?

/-- Uses the next token. -/
def advance : Build Unit :=
  modify fun p => { p with tokens := p.tokens.drop 1 }

/-- Gives up. -/
def stop : Build Node := do
  -- What has been read so far is kept, and this node stands for the rest.
  modify fun p => { p with stopped := true }
  return .cut

/-- Counts one event. -/
def count : Build Unit :=
  modify fun p => { p with events := p.events + 1 }

/-- A scalar with nothing in it, where a node is left out. -/
def emptyScalar : Build Node := do
  -- It counts as a node, although no token stands for it.
  count
  return .scalar ⟨"", true, none⟩

/-- Binds an anchor to a slot: as many slots are in use as there are anchors with different names. -/
def bind (anchor : Option String) : Build (Option (Nat × Nat)) := do
  -- A name that is bound again gets a slot of its own, and earlier aliases keep theirs.
  match anchor with
  | none => return none
  | some name =>
    let p ← get
    let slot := p.anchors.length
    let anchors := (name, slot) :: p.anchors.filter fun (other, _) => other != name
    set { p with anchors }
    return some (slot, p.events)

/-- Puts a node into the slot of its anchor. -/
def fill (slot : Option (Nat × Nat)) (node : Node) : Build Node := do
  -- The node goes on being where it is, and aliases find a copy of it.
  match slot with
  | none => return node
  | some (slot, start) =>
    modify fun p => { p with slots := (slot, start, node) :: p.slots }
    return node

/-- The anchor and the tag before a node, in either order. -/
def properties : Build (Option String × Option Tag.Raw) := do
  -- Either may stand first, and each of them at most once.
  match ← peek with
  | some (.anchor name) =>
    advance
    match ← peek with
    | some (.tag raw) =>
      advance
      return (some name, some raw)
    | _ => return (some name, none)
  | some (.tag raw) =>
    advance
    match ← peek with
    | some (.anchor name) =>
      advance
      return (some name, some raw)
    | _ => return (none, some raw)
  | _ => return (none, none)

/-- A tag in full, unless its short name is unknown. -/
def fullTag (handles : List (String × String)) (raw : Tag.Raw) : Option String :=
  -- A tag without a short name is written in full already.
  if raw.handle.isEmpty then some raw.suffix
  else (handles.lookup raw.handle).map (· ++ raw.suffix)

/-- Whether a grammar violation has ended the document. -/
def isStopped : Build Bool := do
  return (← get).stopped

/-- One node and then, unless the document ends in it, more nodes. -/
def andThen (first : Build Node) (rest : Build (List Node)) : Build (List Node) := do
  -- Whether the document has ended is asked before anything more is read.
  let node ← first
  if ← isStopped then return [node]
  return node :: (← rest)

/-- A key, its value and then more entries; where the document ends, the rest is cut. -/
def entryThen (key value : Build Node) (rest : Build (List (Node × Node))) :
    Build (List (Node × Node)) := do
  -- Whether the document has ended is asked after the key and after the value.
  let k ← key
  if ← isStopped then return [(k, .cut)]
  let v ← value
  if ← isStopped then return [(k, v)]
  return (k, v) :: (← rest)

/-- Nothing more can be read of a list. -/
def stopList : Build (List Node) := do
  return [← stop]

/-- Nothing more can be read of a map. -/
def stopMap : Build (List (Node × Node)) := do
  return [(← stop, .cut)]

/-- The end of a list. -/
def endList : Build (List Node) := do
  -- The mark at the end counts as the one at the front does.
  count
  return []

/-- The end of a map. -/
def endMap : Build (List (Node × Node)) := do
  count
  return []

/-- The end of a map of one pair, which has no mark of its own. -/
def endPair : Build (List (Node × Node)) := do
  -- Only the lack of any token is a violation here, since every token may follow.
  match ← peek with
  | none => stopMap
  | some _ => endMap

/-- A node, unless one of the tokens that may follow in its place does: then it is empty. -/
def nodeOrEmpty (follows : Token → Bool) (node : Build Node) : Build Node := do
  -- Without a token the document breaks off here.
  match ← peek with
  | none => stop
  | some t => if follows t then emptyScalar else node

/-- After a value mark, a node or nothing; without one, nothing. -/
def valueOrEmpty (follows : Token → Bool) (node : Build Node) : Build Node := do
  -- Only a mark may have a node behind it; without one the value is left out.
  match ← peek with
  | none => stop
  | some .value =>
    advance
    nodeOrEmpty follows node
  | some _ => emptyScalar

/-- What may stand in the place of an item of an indented list. -/
def followsItem (t : Token) : Bool :=
  t == .blockEntry || t == .blockEnd

/-- What may stand in the place of an item of a list that is indented like its key. -/
def followsIndentlessItem (t : Token) : Bool :=
  t == .blockEntry || t == .key || t == .value || t == .blockEnd

/-- What may stand in the place of a key or a value of an indented map. -/
def followsBlockNode (t : Token) : Bool :=
  t == .key || t == .value || t == .blockEnd

/-- What may stand in the place of a key of a map in braces. -/
def followsFlowKey (t : Token) : Bool :=
  t == .value || t == .flowEntry || t == .flowMappingEnd

/-- What may stand in the place of a value of a map in braces. -/
def followsFlowValue (t : Token) : Bool :=
  t == .flowEntry || t == .flowMappingEnd

/-- What may stand in the place of a value of a single pair in brackets. -/
def followsPairValue (t : Token) : Bool :=
  t == .flowEntry || t == .flowSequenceEnd

mutual

/-- A node. Indented collections may begin only where `block` allows it, and lists that are indented
like their key only where `indentless` does. -/
def node : Nat → (block indentless : Bool) → Build Node
  -- An alias is a node by itself, and an anchor or a tag may not stand in front of it.
  | 0, _, _ => stop
  | fuel + 1, block, indentless => do
    match ← peek with
    | some (.alias name) =>
      advance
      match (← get).anchors.lookup name with
      | some slot =>
        count
        return .alias slot
      | none => stop
    | _ =>
      let (anchor, raw) ← properties
      let tag ← match raw with
        | none => pure (some none)
        | some raw => (fun p => (fullTag p.handles raw).map some) <$> get
      match tag, ← peek with
      | none, _ => stop
      | _, none => stop
      | some tag, some token => content fuel block indentless anchor tag token

/-- A node after its anchor and tag. -/
def content : Nat → (block indentless : Bool) → (anchor tag : Option String) → Token → Build Node
  | 0, _, _, _, _, _ => stop
  | fuel + 1, block, indentless, anchor, tag, token => do
    match token with
    | .scalar text plain =>
      advance
      let slot ← bind anchor
      count
      -- The tag of one exclamation mark says nothing about a scalar.
      fill slot (.scalar ⟨text, plain, if tag == some "!" then none else tag⟩)
    | .flowSequenceStart =>
      advance
      let slot ← bind anchor
      count
      fill slot (.list tag (← flowItems fuel true))
    | .flowMappingStart =>
      advance
      let slot ← bind anchor
      count
      fill slot (.mapping tag (← flowEntries fuel true))
    | token =>
      if token == .blockEntry && indentless then
        let slot ← bind anchor
        count
        fill slot (.list tag (← indentlessItems fuel))
      else if token == .blockSequenceStart && block then
        advance
        let slot ← bind anchor
        count
        fill slot (.list tag (← blockItems fuel))
      else if token == .blockMappingStart && block then
        advance
        let slot ← bind anchor
        count
        fill slot (.mapping tag (← blockEntries fuel))
      else if anchor.isSome || tag.isSome then
        let slot ← bind anchor
        count
        fill slot (.scalar ⟨"", true, tag⟩)
      else stop

/-- The items of an indented list. -/
def blockItems : Nat → Build (List Node)
  -- Items follow until the mark that ends the list; anything else breaks it off.
  | 0 => stopList
  | fuel + 1 => do
    match ← peek with
    | some .blockEntry =>
      advance
      andThen (nodeOrEmpty followsItem (node fuel true false)) (blockItems fuel)
    | some .blockEnd =>
      advance
      endList
    | _ => stopList

/-- The items of a list that is indented like its key. -/
def indentlessItems : Nat → Build (List Node)
  -- The list has no mark at its end, so whatever is no item ends it.
  | 0 => stopList
  | fuel + 1 => do
    match ← peek with
    | some .blockEntry =>
      advance
      andThen (nodeOrEmpty followsIndentlessItem (node fuel true false)) (indentlessItems fuel)
    | some _ => endList
    | none => stopList

/-- The entries of an indented map. -/
def blockEntries : Nat → Build (List (Node × Node))
  -- Keys follow until the mark that ends the map; anything else breaks it off.
  | 0 => stopMap
  | fuel + 1 => do
    match ← peek with
    | some .key =>
      advance
      entryThen (nodeOrEmpty followsBlockNode (node fuel true true))
        (valueOrEmpty followsBlockNode (node fuel true true)) (blockEntries fuel)
    | some .blockEnd =>
      advance
      endMap
    | _ => stopMap

/-- The items of a list in brackets. -/
def flowItems : Nat → (first : Bool) → Build (List Node)
  -- Items are parted by commas, of which one may stand behind the last item.
  | 0, _ => stopList
  | fuel + 1, first => do
    match ← peek with
    | some .flowSequenceEnd =>
      advance
      endList
    | some t =>
      if !first && t != .flowEntry then stopList else
      if !first then advance
      match ← peek with
      | none => stopList
      | some .flowSequenceEnd =>
        advance
        endList
      | some .key =>
        advance
        andThen (pair fuel) (flowItems fuel false)
      | some _ => andThen (node fuel false false) (flowItems fuel false)
    | none => stopList

/-- A single pair in brackets, which is a map of its own. -/
def pair : Nat → Build Node
  | 0 => stop
  | fuel + 1 => do
    count
    let key : Build Node := do
      match ← peek with
      | none => stop
      | some t =>
        if t == .value || followsPairValue t then
          -- The mark that stands in the place of the key is used up with it.
          advance
          emptyScalar
        else node fuel false false
    return .mapping none
      (← entryThen key (valueOrEmpty followsPairValue (node fuel false false)) endPair)

/-- The entries of a map in braces. -/
def flowEntries : Nat → (first : Bool) → Build (List (Node × Node))
  -- Entries are parted by commas, of which one may stand behind the last entry.
  | 0, _ => stopMap
  | fuel + 1, first => do
    match ← peek with
    | some .flowMappingEnd =>
      advance
      endMap
    | some t =>
      if !first && t != .flowEntry then stopMap else
      if !first then advance
      match ← peek with
      | none => stopMap
      | some .flowMappingEnd =>
        advance
        endMap
      | some .key =>
        advance
        entryThen (nodeOrEmpty followsFlowKey (node fuel false false))
          (valueOrEmpty followsFlowValue (node fuel false false)) (flowEntries fuel false)
      | some _ =>
        entryThen (node fuel false false) (nodeOrEmpty (fun _ => true) emptyScalar)
          (flowEntries fuel false)
    | none => stopMap

end

end Node

/-- The first document of a text. -/
structure Document where
  /-- Its node as far as it goes; there is none in an empty text. -/
  root : Option Node
  /-- The node in each slot that an alias may point to. -/
  slots : List (Nat × Node)
  /-- The count of scalars, of aliases, and of the two ends of lists and maps. -/
  events : Nat
  /-- The text ends with the document. -/
  complete : Bool

namespace Document

/-- Reads the directives before a document into short names for tags. -/
def directives : (version : Bool) → (handles : List (String × String)) → List Token →
    Option (List (String × String) × List Token)
  -- A version may be told once, and each short name may be given one meaning.
  | version, handles, .directive d :: rest =>
    match d with
    | .version major minor =>
      if version || major != 1 || (minor != 1 && minor != 2) then none
      else directives true handles rest
    | .handle name front =>
      if (handles.lookup name).isSome then none
      else directives version ((name, front) :: handles) rest
  | _, handles, rest => some (handles, rest)

/-- The short names that every document has unless it gives them anew. -/
def defaultHandles : List (String × String) :=
  [("!", "!"), ("!!", "tag:yaml.org,2002:")]

/-- Of the nodes that were put into one slot, the one that began last is there. -/
def settle (slots : List (Nat × Nat × Node)) : List (Nat × Node) :=
  -- An anchor inside a node of the same slot began later, and so it is the one that counts.
  slots.filterMap fun (slot, start, node) =>
    if slots.any fun (other, later, _) => other == slot && start < later then none
    else some (slot, node)

/-- Nothing but the end follows, perhaps after marks of the end of a document. -/
def endsAfter (tokens : List Token) : Bool :=
  tokens.dropWhile (· == .documentEnd) == [.streamEnd]

/-- The document whose node begins with the given tokens. -/
def ofNodeTokens (handles : List (String × String)) (explicit : Bool) (tokens : List Token) :
    Document :=
  -- With a start mark in front the node may be left out.
  let isEmpty : Token → Bool
    | .directive _ => true
    | t => t == .documentStart || t == .documentEnd || t == .streamEnd
  let node := Node.node (2 * tokens.length + 4) true false
  let build := if explicit then Node.nodeOrEmpty isEmpty node else node
  let (root, p) := build.run ⟨tokens, handles, [], [], 0, false⟩
  { root := some root, slots := settle p.slots, events := p.events,
    complete := !p.stopped && endsAfter p.tokens }

/-- A document that breaks off before its node. -/
def broken : Document :=
  { root := some .cut, slots := [], events := 0, complete := false }

/-- The first document among tokens. -/
def ofTokens (tokens : List Token) : Document :=
  -- An empty text is a document without a node, and is not broken.
  match tokens with
  | [] => broken
  | .streamEnd :: _ => { root := none, slots := [], events := 1, complete := true }
  | .directive _ :: _ => afterDirectives
  | .documentStart :: _ => afterDirectives
  | _ => ofNodeTokens defaultHandles false tokens
where
  /-- A document that begins with directives or with its start mark. -/
  afterDirectives : Document :=
    match directives false [] tokens with
    | some (handles, .documentStart :: rest) => ofNodeTokens (handles ++ defaultHandles) true rest
    | _ => broken

/-- The first document of a text. -/
def ofText (text : String) : Document :=
  ofTokens (tokens text)

end Document

end CsiOperator.Yaml
