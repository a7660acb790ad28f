import CsiOperator.Proofs.Manifest.Lines
import CsiOperator.Proofs.Manifest.Pieces

/-! The documents of a text hold its content, each line of it in the document where it stands. -/

namespace CsiOperator.Manifest

/-- A line without the hyphens that it may begin with. -/
def unmarked (line : List Char) : List Char :=
  if hyphens <+: line then line.drop hyphens.length else line

/-- The lines of a text and their numbers; all but the first one are without hyphens in front. -/
def numberedLines (text : List Char) : List (List Char × Nat) :=
  -- A line loses its hyphens where it would begin a document.
  match lines text with
  | [] => []
  | first :: rest => (first :: rest.map unmarked).zipIdx

/-- The lines with content, without the blanks around them, and their numbers. -/
def contentAt (ls : List (List Char × Nat)) : List (List Char × Nat) :=
  (ls.filter (isContent ·.1)).map fun (line, i) => (Text.trimChars line, i)

/-- Lines with their numbers, cut in front of every line but the first one that begins with hyphens;
such a line loses them. -/
def sections (first : List Char × Nat) :
    List (List Char × Nat) → List (List (List Char × Nat))
  -- The separator is in front of such a line, so it is the line that opens a section.
  | [] => [[first]]
  | next :: rest =>
    if hyphens <+: next.1 then [first] :: sections (next.1.drop hyphens.length, next.2) rest
    else (sections next rest).modifyHead (first :: ·)

/-- There is always a first section. -/
theorem sections_ne_nil (first : List Char × Nat) (rest : List (List Char × Nat)) :
    sections first rest ≠ [] := by
  -- By induction on the later lines, which either join a section or open one.
  induction rest generalizing first with
  | nil => simp [sections]
  | cons next rest ih =>
    rw [sections]
    split
    · simp
    · simpa using ih next

/-- Nothing of a line is lost but its hyphens. -/
theorem sections_flatten (first : List Char × Nat) (rest : List (List Char × Nat)) :
    (sections first rest).flatten = first :: rest.map fun (line, i) => (unmarked line, i) := by
  -- Induction on the lines behind the first one: a cut falls between two lines, and takes nothing
  -- but the hyphens.
  induction rest generalizing first with
  | nil => rfl
  | cons next rest ih =>
    rw [sections, List.map_cons]
    split
    · next marked =>
      rw [List.flatten_cons, ih]
      simp [unmarked, marked]
    · next plain =>
      obtain ⟨head, more, cut⟩ := List.exists_cons_of_ne_nil (sections_ne_nil next rest)
      have whole := ih next
      rw [cut, List.flatten_cons] at whole
      rw [cut, List.modifyHead_cons, List.flatten_cons, List.cons_append, whole]
      simp [unmarked, plain]

/-- Up to a line of a section, as many lines begin with hyphens as there are sections before it. -/
theorem sections_rank (first : List Char) (rest : List (List Char)) (n m : Nat)
    {part : List (List Char × Nat)}
    (found : (sections (first, n) (rest.zipIdx (n + 1)))[m]? = some part)
    {a : List Char × Nat} (member : a ∈ part) :
    n ≤ a.2 ∧ (rest.take (a.2 - n)).countP (hyphens <+: ·) = m := by
  -- The first line stands before all others, so the induction is on these.
  induction rest generalizing first n m part with
  | nil =>
    cases m with
    | zero =>
      obtain rfl : [(first, n)] = part := by simpa [sections] using found
      simp [List.mem_singleton.mp member]
    | succ m => simp [sections] at found
  | cons next rest ih =>
    rw [List.zipIdx_cons, sections] at found
    -- A later line has the next line before it as well.
    have later {line : List Char} {m : Nat} {part : List (List Char × Nat)}
        (found : (sections (line, n + 1) (rest.zipIdx (n + 1 + 1)))[m]? = some part)
        (member : a ∈ part) : n ≤ a.2 ∧ ((next :: rest).take (a.2 - n)).countP (hyphens <+: ·) =
          m + if hyphens <+: next then 1 else 0 := by
      obtain ⟨after, count⟩ := ih line (n + 1) m found member
      refine ⟨by omega, ?_⟩
      rw [show a.2 - n = (a.2 - (n + 1)) + 1 by omega, List.take_succ_cons, List.countP_cons, count]
      simp
    split at found
    -- The first line ends its section here, so whatever follows is one section further on.
    · next marked =>
      cases m with
      | zero =>
        obtain rfl : [(first, n)] = part := by simpa using found
        simp [List.mem_singleton.mp member]
      | succ m => simpa [marked] using later found member
    -- The first line joins the section of the next one.
    · next plain =>
      obtain ⟨head, more, cut⟩ :=
        List.exists_cons_of_ne_nil (sections_ne_nil (next, n + 1) (rest.zipIdx (n + 1 + 1)))
      rw [cut, List.modifyHead_cons] at found
      cases m with
      | zero =>
        obtain rfl : (first, n) :: head = part := by simpa using found
        rcases List.mem_cons.mp member with same | behind
        · simp [same]
        · simpa [plain] using later (m := 0) (by rw [cut]; rfl) behind
      | succ m => simpa [plain] using later (m := m + 1) (by rw [cut]; exact found) member

/-- A line that joined lines begin with begins with hyphens if they do. -/
theorem hyphens_of_intercalate {line : List Char} {ls : List (List Char)}
    (front : hyphens <+: ['\n'].intercalate (line :: ls)) : hyphens <+: line := by
  -- Whether there are more lines behind decides if a line break follows the first.
  cases ls with
  | nil => simpa using front
  | cons next ls =>
    rw [List.intercalate_cons_cons] at front
    -- The line break behind the line is no hyphen.
    match line with
    | [] | [_] | [_, _] => simp [hyphens] at front
    | _ :: _ :: _ :: _ => simpa [hyphens] using front

/-- The pieces of a text have the lines of its sections. -/
theorem pieces_lines (first : List Char × Nat) (rest : List (List Char × Nat))
    (whole : ∀ line ∈ first.1 :: rest.map Prod.fst, '\n' ∉ line) :
    (pieces 0 (['\n'].intercalate (first.1 :: rest.map Prod.fst))).map lines =
      (sections first rest).map (·.map Prod.fst) := by
  -- By induction on the lines: one that begins with hyphens opens a piece, all others join one.
  induction rest generalizing first with
  | nil =>
    have alone : '\n' ∉ first.1 := by simpa using whole
    have single : pieces 0 first.1 = [first.1] := by
      simpa [pieces] using pieces_append_of_not_mem alone []
    simp [sections, single, lines_of_not_mem alone]
  | cons next rest ih =>
    obtain ⟨alone, later⟩ := List.forall_mem_cons.mp whole
    rw [List.map_cons, List.intercalate_cons_cons, List.append_assoc,
      pieces_append_of_not_mem alone, List.singleton_append, sections]
    split
    · -- The break and the hyphens are a separator, so the first line is a piece.
      next marked =>
      obtain ⟨line, same⟩ := marked
      have dropped : next.1.drop hyphens.length = line := by rw [← same]; simp
      have cut : '\n' :: ['\n'].intercalate (next.1 :: rest.map Prod.fst) =
          separator ++ ['\n'].intercalate (line :: rest.map Prod.fst) := by
        rw [← same]
        simp [hyphens, separator]
      have others : ∀ other ∈ line :: rest.map Prod.fst, '\n' ∉ other := by
        obtain ⟨marked, later⟩ := List.forall_mem_cons.mp later
        refine List.forall_mem_cons.mpr ⟨fun inside => marked ?_, later⟩
        rw [← same]
        exact List.mem_append_right _ inside
      rw [cut, pieces_separator, dropped, List.modifyHead_cons, List.append_nil, List.map_cons,
        List.map_cons, lines_of_not_mem alone]
      exact congrArg _ (ih (line, next.2) others)
    · -- The line belongs to the piece of the next one.
      next plain =>
      have inside : ¬ separator <+: '\n' :: ['\n'].intercalate (next.1 :: rest.map Prod.fst) :=
        fun front => plain (hyphens_of_intercalate (List.cons_prefix_cons.mp front).2)
      have split := ih next later
      obtain ⟨piece, more, cut⟩ := List.exists_cons_of_ne_nil
        (pieces_ne_nil 0 (['\n'].intercalate (next.1 :: rest.map Prod.fst)))
      obtain ⟨head, tail, parts⟩ := List.exists_cons_of_ne_nil (sections_ne_nil next rest)
      rw [cut, parts, List.map_cons, List.map_cons, List.cons.injEq] at split
      rw [pieces_cons inside, cut, parts]
      simp [lines_append alone, split]

/-- Numbers do not matter to content. -/
theorem contentAt_fst (ls : List (List Char × Nat)) :
    (contentAt ls).map Prod.fst = contentOf (ls.map Prod.fst) := by
  simp [contentAt, contentOf, List.filter_map, Function.comp_def]

/-- The content of parts is that of their lines put together. -/
theorem contentAt_flatten (parts : List (List (List Char × Nat))) :
    (parts.map contentAt).flatten = contentAt parts.flatten := by
  -- By induction on the parts, since content is told line by line.
  induction parts with
  | nil => rfl
  | cons part rest ih =>
    rw [List.map_cons, List.flatten_cons, List.flatten_cons, ih]
    simp [contentAt]

/-- The documents have the content of the pieces that have any. -/
theorem documents_content (text : String) :
    (documents text).map (fun d => content d.toList) =
      ((pieces 0 text.toList).map content).filter (· ≠ []) := by
  -- A piece is kept for its content, and trimming leaves that alone.
  have kept (piece : List Char) :
      hasContent (Text.trimChars piece) = decide (content piece ≠ []) := by
    rw [Bool.eq_iff_iff, hasContent_iff, content_trimChars, decide_eq_true_iff]
  simp [documents, List.filter_map, Function.comp_def, kept, content_trimChars]

/-- No line between two others begins with hyphens exactly when as many do before either. -/
theorem countP_take_eq_iff (p : List Char → Bool) (ls : List (List Char)) {i j : Nat}
    (le : i ≤ j) : (ls.take i).countP p = (ls.take j).countP p ↔
      ∀ line ∈ (ls.take j).drop i, ¬ p line = true := by
  -- What is counted up to `j` is counted up to `i` or behind it.
  have sum : (ls.take j).countP p = (ls.take i).countP p + ((ls.take j).drop i).countP p := by
    have parts := List.take_append_drop i (ls.take j)
    rw [List.take_take, Nat.min_eq_left le] at parts
    rw [← List.countP_append, parts]
  rw [sum, ← List.countP_eq_zero]
  omega

/-- The content of a document comes from lines between which no line begins with hyphens. -/
theorem exists_groups (text : String) : ∃ groups : List (List (List Char × Nat)),
    (documents text).map (fun d => content d.toList) = groups.map (·.map Prod.fst) ∧
    groups.flatten = contentAt (numberedLines text.toList) ∧
    ∀ a ∈ groups.flatten, ∀ b ∈ groups.flatten, a.2 < b.2 →
      ((∃ group ∈ groups, a ∈ group ∧ b ∈ group) ↔
        ∀ line ∈ ((lines text.toList).take (b.2 + 1)).drop (a.2 + 1), ¬ hyphens <+: line) := by
  -- The groups are the sections of the numbered lines, of which documents keep those with content.
  obtain ⟨first, rest, split⟩ := List.exists_cons_of_ne_nil (lines_ne_nil text.toList)
  -- The pieces of the text are its sections, and the documents are those with content.
  let parts := sections (first, 0) (rest.zipIdx 1)
  have numbers : (rest.zipIdx 1).map Prod.fst = rest := List.zipIdx_map_fst ..
  have cut : (pieces 0 text.toList).map lines = parts.map (·.map Prod.fst) := by
    have whole := pieces_lines (first, 0) (rest.zipIdx 1)
    rw [numbers, ← split, intercalate_lines] at whole
    exact whole fun line member => not_mem_of_mem_lines member
  have told : (pieces 0 text.toList).map content = (parts.map contentAt).map (·.map Prod.fst) := by
    calc (pieces 0 text.toList).map content
        = ((pieces 0 text.toList).map lines).map contentOf := by
          rw [List.map_map]
          rfl
      _ = (parts.map (·.map Prod.fst)).map contentOf := by rw [cut]
      _ = (parts.map contentAt).map (·.map Prod.fst) := by
          simp only [List.map_map, Function.comp_def, contentAt_fst]
  have flat : (parts.map contentAt).flatten = contentAt (numberedLines text.toList) := by
    rw [contentAt_flatten, sections_flatten, numberedLines, split]
    show _ = contentAt (first :: rest.map unmarked).zipIdx
    rw [List.zipIdx_cons, List.zipIdx_map]
    rfl
  -- The lines with hyphens before a line tell which part it is in.
  have rank {m : Nat} {group : List (List Char × Nat)}
      (found : (parts.map contentAt)[m]? = some group) {a : List Char × Nat} (member : a ∈ group) :
      (rest.take a.2).countP (hyphens <+: ·) = m := by
    rw [List.getElem?_map, Option.map_eq_some_iff] at found
    obtain ⟨part, there, rfl⟩ := found
    obtain ⟨line, inside, rfl⟩ := List.mem_map.mp member
    exact (sections_rank first rest 0 m there (List.mem_filter.mp inside).1).2
  refine ⟨(parts.map contentAt).filter (· ≠ []), ?_, ?_, ?_⟩
  · rw [documents_content, told, List.filter_map]
    simp [Function.comp_def]
  · exact List.flatten_filter_ne_nil.trans flat
  · rw [List.flatten_filter_ne_nil]
    intro a memberA b memberB before
    obtain ⟨group, inA, a_in⟩ := List.mem_flatten.mp memberA
    obtain ⟨other, inB, b_in⟩ := List.mem_flatten.mp memberB
    obtain ⟨m, foundA⟩ := List.mem_iff_getElem?.mp inA
    obtain ⟨n, foundB⟩ := List.mem_iff_getElem?.mp inB
    have same := countP_take_eq_iff (hyphens <+: ·) rest before.le
    simp only [decide_eq_true_iff] at same
    rw [split, List.take_succ_cons, List.drop_succ_cons, ← same, rank foundA a_in,
      rank foundB b_in]
    constructor
    -- A shared document has one rank, and both lines have it.
    · intro shared
      obtain ⟨both, kept, a_both, b_both⟩ := shared
      obtain ⟨k, found⟩ := List.mem_iff_getElem?.mp (List.mem_filter.mp kept).1
      rw [← rank foundA a_in, ← rank foundB b_in, rank found a_both, rank found b_both]
    -- Parts of the same rank are the same part, and it is kept as it has content.
    · intro equal
      subst equal
      obtain rfl : group = other := Option.some.inj (foundA.symm.trans foundB)
      exact ⟨group, List.mem_filter.mpr ⟨inA, by simpa using List.ne_nil_of_mem a_in⟩, a_in, b_in⟩

/-- A text that is one document: trimmed, with content, and without a separator. -/
structure Single (d : String) : Prop where
  /-- There are no blanks around it. -/
  trimmed : Text.trim d = d
  /-- One of its lines has content. -/
  some : content d.toList ≠ []
  /-- No line but the first one begins with hyphens. -/
  free : ¬ separator <:+: d.toList

/-- A break at the end of what goes between texts may as well stand in front of the later ones. -/
theorem intercalate_break (first : List Char) (rest : List (List Char)) :
    (separator ++ ['\n']).intercalate (first :: rest) =
      separator.intercalate (first :: rest.map ('\n' :: ·)) := by
  -- The break that ends one separator is the one in front of the next text.
  induction rest generalizing first with
  | nil => simp
  | cons next rest ih =>
    rw [List.map_cons, List.intercalate_cons_cons, List.intercalate_cons_cons, ih next,
      List.intercalate_cons_cons_left]
    simp

/-- Documents that are joined with marker lines between them are found again. -/
theorem documents_intercalate {ds : List String} (single : ∀ d ∈ ds, Single d)
    (later : ∀ d ∈ ds.tail, ¬ hyphens <+: d.toList) :
    documents ("\n---\n".intercalate ds) = ds := by
  -- Each separator stands at a marker line, so the pieces of the whole are the documents again.
  cases ds with
  | nil => rfl
  | cons first rest =>
    have ⟨alone, others⟩ := List.forall_mem_cons.mp single
    have joined : ("\n---\n".intercalate (first :: rest)).toList =
        separator.intercalate (first.toList :: (rest.map String.toList).map ('\n' :: ·)) := by
      rw [String.toList_intercalate, ← intercalate_break]
      rfl
    -- The break in front of a later document makes no separator with it.
    have free : ∀ piece ∈ first.toList :: (rest.map String.toList).map ('\n' :: ·),
        ¬ separator <:+: piece := by
      refine List.forall_mem_cons.mpr ⟨alone.free, ?_⟩
      intro piece member inside
      simp only [List.map_map, List.mem_map] at member
      obtain ⟨d, there, rfl⟩ := member
      rcases List.infix_cons_iff.mp inside with front | behind
      · exact later d there (List.cons_prefix_cons.mp front).2
      · exact (others d there).free behind
    -- The texts come back once the breaks in front of them are trimmed away.
    have trimmed {d : String} (single : Single d) : Text.trimChars d.toList = d.toList := by
      simpa [Text.trim] using congrArg String.toList single.trimmed
    have again : (first.toList :: (rest.map String.toList).map ('\n' :: ·)).map Text.trimChars =
        (first :: rest).map String.toList := by
      rw [List.map_cons, List.map_cons, trimmed alone, List.map_map, List.map_map]
      refine congrArg _ (List.map_congr_left fun d member => ?_)
      exact (Text.trimChars_cons rfl d.toList).trans (trimmed (others d member))
    have kept : ∀ piece ∈ (first :: rest).map String.toList, hasContent piece = true := by
      intro piece member
      obtain ⟨d, there, rfl⟩ := List.mem_map.mp member
      exact (hasContent_iff d.toList).mpr (single d there).some
    rw [documents, joined, pieces_intercalate (by simp) free, again, List.filter_eq_self.mpr kept,
      List.map_map]
    simp

/-- A document of a text is a part of it, and one document by itself. -/
theorem single_of_mem {text d : String} (member : d ∈ documents text) :
    d.toList <:+: text.toList ∧ Single d := by
  -- A document is a trimmed piece with content, so each property is that of the piece.
  simp only [documents, List.mem_map, List.mem_filter] at member
  obtain ⟨_, ⟨⟨piece, there, rfl⟩, kept⟩, rfl⟩ := member
  have inside : Text.trimChars piece <:+: piece := Text.trimChars_infix piece
  refine ⟨?_, ?_, ?_, ?_⟩
  · rw [String.toList_ofList]
    exact inside.trans (infix_of_mem_pieces there)
  · simp [Text.trim]
  · rw [String.toList_ofList]
    exact (hasContent_iff _).mp kept
  · rw [String.toList_ofList]
    exact fun within => pieces_free text.toList piece there (within.trans inside)

/--
Nothing of the content of a text is lost, repeated or moved on the way into its documents.

Two lines share a document exactly when no line after the first and up to the second begins with
hyphens. Every document is one by itself, and documents that are joined at marker lines are found
again.
-/
theorem documents_keep_content (text : String) :
    (∃ groups : List (List (List Char × Nat)),
      (documents text).map (fun d => content d.toList) = groups.map (·.map Prod.fst) ∧
      groups.flatten = contentAt (numberedLines text.toList) ∧
      ∀ a ∈ groups.flatten, ∀ b ∈ groups.flatten, a.2 < b.2 →
        ((∃ group ∈ groups, a ∈ group ∧ b ∈ group) ↔
          ∀ line ∈ ((lines text.toList).take (b.2 + 1)).drop (a.2 + 1), ¬ hyphens <+: line)) ∧
    (documents text).flatMap (fun d => content d.toList) =
      (contentAt (numberedLines text.toList)).map Prod.fst ∧
    (∀ d ∈ documents text, d.toList <:+: text.toList ∧ Single d ∧ documents d = [d]) ∧
    ∀ ds : List String, (∀ d ∈ ds, Single d) → (∀ d ∈ ds.tail, ¬ hyphens <+: d.toList) →
      documents ("\n---\n".intercalate ds) = ds := by
  -- The groups bring the first half, and each document is single, which gives the other two.
  obtain ⟨groups, told, flat, shared⟩ := exists_groups text
  refine ⟨⟨groups, told, flat, shared⟩, ?_, ?_, fun ds => documents_intercalate⟩
  · -- The groups are the content of the documents, one after another.
    rw [List.flatMap_def, told, ← List.map_flatten, flat]
  · intro d member
    obtain ⟨inside, single⟩ := single_of_mem member
    refine ⟨inside, single, ?_⟩
    have alone : ∀ other ∈ [d], Single other := by simpa using single
    simpa using documents_intercalate alone (by simp)

/-- A marker with a comment behind it parts lines, an indented line does not, and a marker that is
the first line belongs to its document. -/
theorem documents_keep_content_parted :
    let text := "a: 1\n  b: 2\r\n--- # note\n\nc: 3"
    let ds := ["---\na: 1", "# note\nb: ---"]
    (∃ groups : List (List (List Char × Nat)),
      groups.flatten = [("a: 1".toList, 0), ("b: 2".toList, 1), ("c: 3".toList, 4)] ∧
      (∃ group ∈ groups, ("a: 1".toList, 0) ∈ group ∧ ("b: 2".toList, 1) ∈ group) ∧
      ¬ ∃ group ∈ groups, ("b: 2".toList, 1) ∈ group ∧ ("c: 3".toList, 4) ∈ group) ∧
    (∀ d ∈ documents text, documents d = [d]) ∧
    (∀ d ∈ ds, Single d) ∧ (∀ d ∈ ds.tail, ¬ hyphens <+: d.toList) ∧
      documents ("\n---\n".intercalate ds) = ds := by
  -- Content and joined text are closed, so the law's parts are compared with evaluated lists.
  intro text ds
  obtain ⟨⟨groups, -, flat, shared⟩, -, single, joined⟩ := documents_keep_content text
  have whole : groups.flatten =
      [("a: 1".toList, 0), ("b: 2".toList, 1), ("c: 3".toList, 4)] :=
    flat.trans (by decide +kernel)
  have apart : ∀ d ∈ ds, Single d := by
    refine List.forall_mem_cons.mpr
      ⟨⟨?_, ?_, ?_⟩, List.forall_mem_cons.mpr ⟨⟨?_, ?_, ?_⟩, by simp⟩⟩ <;> decide +kernel
  have later : ∀ d ∈ ds.tail, ¬ hyphens <+: d.toList := by decide +kernel
  refine ⟨⟨groups, whole, ?_, ?_⟩, fun d member => (single d member).2.2, apart, later,
    joined ds apart later⟩
  · refine (shared _ (by simp [whole]) _ (by simp [whole]) (by decide)).mpr ?_
    decide +kernel
  · rw [shared _ (by simp [whole]) _ (by simp [whole]) (by decide)]
    decide +kernel

end CsiOperator.Manifest
