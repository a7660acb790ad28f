import CsiOperator.Proofs.Manifest.Documents
import CsiOperator.Proofs.Api.Apply
import CsiOperator.Proofs.Failure

/-! A marker line in front of a text, and the documents that it changes. -/

namespace CsiOperator

/-- The start mark of a document may be left out where a node follows it. -/
theorem Yaml.Document.ofTokens_documentStart {t : Token} (rest : List Token)
    (named : ∀ d, t ≠ .directive d)
    (inner : t ∉ [Token.documentStart, .documentEnd, .streamEnd]) :
    ofTokens (.documentStart :: t :: rest) = ofTokens (t :: rest) := by
  -- Only directives and the marks of other documents would be told apart from a node.
  cases t <;> simp_all [ofTokens, ofTokens.afterDirectives, directives] <;> rfl

namespace Manifest

/-- A line of hyphens with nothing behind them but blanks or a comment. -/
def IsMarker (line : List Char) : Prop :=
  hyphens <+: line ∧ isContent (unmarked line) = false

/-- Every line of a document is blank, a comment or a marker line. -/
def Bare (d : String) : Prop :=
  ∀ line ∈ lines d.toList, isContent line = true → IsMarker line

instance (line : List Char) : Decidable (IsMarker line) :=
  inferInstanceAs (Decidable (_ ∧ _))

instance (d : String) : Decidable (Bare d) :=
  inferInstanceAs (Decidable (∀ line ∈ lines d.toList, _))

/-- What stands in front of the first separator of a text, without hyphens at the start. -/
def opening (text : List Char) : List Char :=
  (pieces 0 (unmarked text)).headD []

/-- A text has no content up to its first separator, apart from hyphens at the start. -/
def Idle (t : String) : Prop :=
  content (opening t.toList) = []

instance (t : String) : Decidable (Idle t) :=
  inferInstanceAs (Decidable (_ = []))

/-- A text with a marker line in front. -/
def marked (t : String) : String :=
  "---\n" ++ t

/-- The documents that pieces of a text give. -/
def documentsOf (ps : List (List Char)) : List String :=
  ((ps.map Text.trimChars).filter hasContent).map String.ofList

/-- A piece with content is a document. -/
theorem documentsOf_cons {piece : List Char} (some : content piece ≠ [])
    (ps : List (List Char)) :
    documentsOf (piece :: ps) = String.ofList (Text.trimChars piece) :: documentsOf ps := by
  -- Trimming leaves the content, by which a piece is kept.
  have kept : hasContent (Text.trimChars piece) = true := by
    rwa [hasContent_iff, content_trimChars]
  simp [documentsOf, kept]

/-- A piece without content is left out. -/
theorem documentsOf_cons_of_eq {piece : List Char} (none : content piece = [])
    (ps : List (List Char)) : documentsOf (piece :: ps) = documentsOf ps := by
  -- Trimming leaves the content, by which a piece is kept.
  have dropped : ¬ hasContent (Text.trimChars piece) = true := by
    rw [hasContent_iff, content_trimChars]
    exact not_not_intro none
  simp [documentsOf, dropped]

/-- Hyphens stand in the first line of what they are put in front of. -/
theorem lines_hyphens (text : List Char) :
    lines (hyphens ++ text) = (lines text).modifyHead (hyphens ++ ·) := by
  -- None of the three hyphens is a break, so each of them joins the first line.
  obtain ⟨first, rest, split⟩ := List.exists_cons_of_ne_nil (lines_ne_nil text)
  simp [hyphens, lines_cons, split]

/-- A line that begins with hyphens has content. -/
theorem isContent_hyphens (line : List Char) : isContent (hyphens ++ line) = true := by
  -- A hyphen is neither a blank nor the start of a comment.
  rw [isContent, show hyphens ++ line = '-' :: ('-' :: '-' :: line) from rfl,
    Text.trimChars_cons_of_not (by decide)]
  rfl

/-- A text that begins with hyphens has content. -/
theorem content_hyphens (text : List Char) : content (hyphens ++ text) ≠ [] := by
  -- A line with hyphens in front is neither blank nor a comment.
  obtain ⟨first, rest, split⟩ := List.exists_cons_of_ne_nil (lines_ne_nil text)
  simp [content, contentOf, lines_hyphens, split, isContent_hyphens]

/-- A later line that begins with hyphens has a separator in front. -/
theorem separator_of_mem {line first : List Char} {rest : List (List Char)} (member : line ∈ rest)
    (front : hyphens <+: line) : separator <:+: ['\n'].intercalate (first :: rest) := by
  -- Induction on the lines in front: a break stands before every one of them but the first.
  induction rest generalizing first with
  | nil => simp at member
  | cons next rest ih =>
    rw [List.intercalate_cons_cons, List.append_assoc]
    refine List.infix_append_of_infix_right ?_
    rcases List.mem_cons.mp member with same | later
    · -- The break in front of the line and its hyphens are the separator.
      subst same
      refine List.IsPrefix.isInfix (List.cons_prefix_cons.mpr ⟨rfl, ?_⟩)
      exact front.trans (prefix_intercalate rest)
    · exact List.infix_append_of_infix_right (ih later)

/-- Trimming a text that begins with hyphens takes blanks off its end. -/
theorem trimChars_hyphens (text : List Char) :
    Text.trimChars (hyphens ++ text) = hyphens ++ text.rdropWhile Text.isBlank := by
  -- No blank is in front, and the blanks behind stop at the last hyphen at the latest.
  refine (Text.trimChars_cons_of_not (by decide) (['-', '-'] ++ text)).trans ?_
  exact congrArg _ (Text.rdropWhile_append (x := '-') (by decide) ['-'] text)

/-- A document is bare when it begins with hyphens and nothing behind them has content. -/
theorem bare_iff {d : String} (free : ¬ separator <:+: d.toList) (some : content d.toList ≠ []) :
    Bare d ↔ hyphens <+: d.toList ∧ content (d.toList.drop hyphens.length) = [] := by
  -- A document without hyphens in front is not bare, and has none to drop either.
  by_cases front : hyphens <+: d.toList
  · -- Only the first line can be a marker line, and what stands behind its hyphens decides.
    obtain ⟨behind, whole⟩ := front
    obtain ⟨first, rest, split⟩ := List.exists_cons_of_ne_nil (lines_ne_nil behind)
    have all : lines d.toList = (hyphens ++ first) :: rest := by
      rw [← whole, lines_hyphens, split, List.modifyHead_cons]
    have later : ∀ line ∈ rest, ¬ hyphens <+: line := by
      intro line member begins
      have inside : separator <:+: ['\n'].intercalate ((hyphens ++ first) :: rest) :=
        separator_of_mem member begins
      rw [← all, intercalate_lines] at inside
      exact free inside
    have dropped : d.toList.drop hyphens.length = behind := by
      rw [← whole, List.drop_left]
    have marker : IsMarker (hyphens ++ first) ↔ isContent first = false := by
      simp [IsMarker, unmarked]
    have plain : ∀ line ∈ rest, (isContent line = true → IsMarker line) ↔
        isContent line = false := by
      intro line member
      have never : ¬ IsMarker line := fun marked => later line member marked.1
      simp [never]
    rw [dropped, content_eq_nil_iff, split, Bare, all, List.forall_mem_cons, List.forall_mem_cons,
      marker, forall₂_congr plain]
    simp [isContent_hyphens, ← whole]
  · -- Without a marker line a line with content is one too many.
    refine iff_of_false (fun bare => some ((content_eq_nil_iff _).mpr ?_)) fun both => front both.1
    intro line member
    by_contra content
    obtain ⟨begins, -⟩ := bare line member (by simpa using content)
    obtain ⟨first, rest, split⟩ := List.exists_cons_of_ne_nil (lines_ne_nil d.toList)
    rw [← intercalate_lines d.toList, split] at free front
    rw [split] at member
    rcases List.mem_cons.mp member with same | later
    · subst same
      exact front (begins.trans (prefix_intercalate rest))
    · exact free (separator_of_mem later begins)

/-- A marker line in front of a text is its first piece, or stands at the start of that. -/
theorem pieces_marked (cs : List Char) : pieces 0 (hyphens ++ '\n' :: cs) =
    if hyphens <+: cs then hyphens :: pieces 0 (unmarked cs)
    else (pieces 0 cs).modifyHead (hyphens ++ '\n' :: ·) := by
  -- No separator begins in the marker line, so what follows it decides.
  rw [pieces_append_of_not_mem (by decide)]
  split
  -- The break behind the marker line and the hyphens of the text are a separator.
  · next marked =>
    obtain ⟨behind, whole⟩ := marked
    have cut : '\n' :: cs = separator ++ behind := by
      rw [← whole]
      rfl
    rw [cut, pieces_separator, unmarked, if_pos ⟨behind, whole⟩, ← whole, List.drop_left]
    simp
  -- Without hyphens the break is a character like any other.
  · next plain =>
    have inside : ¬ separator <+: '\n' :: cs :=
      fun front => plain (List.cons_prefix_cons.mp front).2
    rw [pieces_cons inside, List.modifyHead_modifyHead]
    rfl

/-- Hyphens in front of a text belong to its first piece. -/
theorem pieces_unmarked {cs : List Char} (marked : hyphens <+: cs) :
    pieces 0 cs = (pieces 0 (unmarked cs)).modifyHead (hyphens ++ ·) := by
  -- Hyphens hold no break, so no separator begins in them.
  rw [unmarked, if_pos marked]
  obtain ⟨behind, whole⟩ := marked
  rw [← whole, List.drop_left]
  exact pieces_append_of_not_mem (by decide) behind

/-- The documents of a text in front of which a marker line is put. -/
theorem documents_marker (t : String) : documents (marked t) =
    if hyphens <+: t.toList then "---" :: documents (String.ofList (unmarked t.toList))
    else documentsOf ((pieces 0 t.toList).modifyHead (hyphens ++ '\n' :: ·)) := by
  -- The documents are those of the pieces, and the pieces are those of the lemma above.
  have whole : documents (marked t) = documentsOf (pieces 0 (hyphens ++ '\n' :: t.toList)) := by
    rw [documents, marked, String.toList_append]
    rfl
  -- A marker line has content of its own, so it is a document wherever it is a piece.
  rw [whole, pieces_marked]
  split
  · rw [documentsOf_cons (by decide), documents, String.toList_ofList]
    rfl
  · rfl

/-- A document that begins with a start mark holds the manifest that it holds without it. -/
theorem parse_of_tokens {d after : String} {t : Yaml.Token} {m : Manifest}
    (first : (Yaml.tokens d).head? = some t) (named : ∀ d, t ≠ .directive d)
    (inner : t ∉ [Yaml.Token.documentStart, .documentEnd, .streamEnd])
    (start : Yaml.tokens after = .documentStart :: Yaml.tokens d) (holds : parse d = .ok m) :
    parse after = .ok m := by
  -- A start mark in front of a node makes no difference to the reader of documents.
  obtain ⟨rest, tokens⟩ := List.head?_eq_some_iff.mp first
  have same : Yaml.Document.ofText after = Yaml.Document.ofText d := by
    rw [Yaml.Document.ofText, Yaml.Document.ofText, start, tokens]
    exact Yaml.Document.ofTokens_documentStart rest named inner
  have alike : Yaml.decode (read (ν := Yaml.Tree)) after = Yaml.decode read d := by
    rw [Yaml.decode, Yaml.decode, same]
  -- Only the words for a fault would tell the texts apart, and nothing is wrong with these.
  rw [← holds, parse, parse, alike]
  cases reads : Yaml.decode (read (ν := Yaml.Tree)) d with
  | ok value => rfl
  | error fault =>
    rw [parse, reads] at holds
    cases holds

/-- A marker line alone is no manifest. -/
theorem parse_marker : parse "---" = .error parse.untold := by
  -- The tokens are evaluated: a marker without anything behind it opens no node.
  have tokens : Yaml.tokens "---" = [.documentStart, .streamEnd] := by decide +kernel
  rw [parse, Yaml.decode, Yaml.Document.ofText, tokens]
  rfl

/-- Applying documents needs only the manifests that they hold. -/
theorem applyDocuments_congr [Decode.Wording] {d e : String} (same : parse d = parse e)
    (rest : List String) :
    Api.applyDocuments (d :: rest) = Api.applyDocuments (e :: rest) := by
  rw [Api.applyDocuments, Api.applyDocuments, same]

/-- Behind a marker line a text with content keeps the blanks in front of it. -/
theorem exists_marked {piece : List Char} (some : content piece ≠ []) : ∃ before : String,
    Text.isBlankText before = true ∧
      String.ofList (Text.trimChars (hyphens ++ '\n' :: piece)) =
        marked (before ++ String.ofList (Text.trimChars piece)) := by
  -- Content keeps the piece from being trimmed away altogether.
  have stays : Text.trimChars piece ≠ [] := by
    intro none
    rw [← content_trimChars, none] at some
    exact some rfl
  obtain ⟨before, blank, whole⟩ :=
    Text.trimChars_append (c := '-') (by decide) ['-', '-', '\n'] stays
  refine ⟨String.ofList before, by simpa [Text.isBlankText] using blank, ?_⟩
  rw [show hyphens ++ '\n' :: piece = '-' :: ['-', '-', '\n'] ++ piece from rfl, whole]
  apply String.toList_inj.mp
  simp [marked]

/-- A document of a text is bare when it begins with hyphens and nothing behind them has content. -/
theorem bare_iff_of_mem {text d : String} (member : d ∈ documents text) :
    Bare d ↔ hyphens <+: d.toList ∧ content (d.toList.drop hyphens.length) = [] :=
  -- A document of a text has content and no separator, which is what the lemma above asks.
  have single := (single_of_mem member).2
  bare_iff single.free single.some

/-- A marker line alone is a document in front of a text that begins with hyphens. -/
theorem bare_marker {text : String} (member : "---" ∈ documents text) : Bare "---" :=
  (bare_iff_of_mem member).mpr (by decide)

/-- A marker line and a piece make a bare document when the piece has no content. -/
theorem bare_marked_iff {text : String} {piece : List Char}
    (member : String.ofList (Text.trimChars (hyphens ++ '\n' :: piece)) ∈ documents text) :
    Bare (String.ofList (Text.trimChars (hyphens ++ '\n' :: piece))) ↔ content piece = [] := by
  -- The hyphens are dropped again, and trimming has left the content of the piece.
  rw [bare_iff_of_mem member, String.toList_ofList, trimChars_hyphens, List.drop_left,
    content_rdropWhile, content_cons (by decide)]
  exact and_iff_right (List.prefix_append ..)

/--
A marker line in front of a text leaves the number of documents exactly when the text begins with
hyphens and has no content behind them up to a separator, or neither.

The first document is bare if the text begins with hyphens or has no content there. Otherwise it is
that of the text, with the marker line and perhaps blanks in front. The texts are then applied in the
same way if the reader finds the same manifest in both, and where it finds none in either, nothing is
applied. A document is bare exactly when it begins with hyphens and nothing behind them has content.
-/
theorem documents_marked [Decode.Wording] (t : String) :
    ((documents (marked t)).length = (documents t).length ↔ (hyphens <+: t.toList ↔ Idle t)) ∧
    (∃ first rest, documents (marked t) = first :: rest ∧
      (Bare first ↔ hyphens <+: t.toList ∨ Idle t) ∧
      (Bare first → rest = documents (String.ofList (unmarked t.toList))) ∧
      (¬ Bare first → ∃ before d, Text.isBlankText before = true ∧
        first = marked (before ++ d) ∧ documents t = d :: rest ∧
        (parse first = parse d → Api.applyText (marked t) = Api.applyText t) ∧
        ∀ failure cause, parse first = .error failure → parse d = .error cause →
          Api.applyText (marked t) = .done (.error failure) ∧
            Api.applyText t = .done (.error cause))) ∧
    (hyphens <+: t.toList → Api.applyText (marked t) = .done (.error parse.untold)) ∧
    ∀ d ∈ documents t,
      (Bare d ↔ hyphens <+: d.toList ∧ content (d.toList.drop hyphens.length) = []) := by
  -- The first piece decides each part: whether there is one more document, and what that is.
  obtain ⟨piece, more, split⟩ := List.exists_cons_of_ne_nil (pieces_ne_nil 0 (unmarked t.toList))
  have opens : opening t.toList = piece := by rw [opening, split, List.headD_cons]
  have alone : documents (String.ofList (unmarked t.toList)) = documentsOf (piece :: more) := by
    rw [documents, String.toList_ofList, split]
    rfl
  have added := documents_marker t
  simp only [Idle, opens]
  suffices known : _ ∧ _ ∧ _ from ⟨known.1, known.2.1, known.2.2, fun d => bare_iff_of_mem⟩
  by_cases front : hyphens <+: t.toList
  · -- The marker line is a document by itself, and the text loses the hyphens that it begins with.
    rw [if_pos front, alone] at added
    have before : documents t =
        String.ofList (Text.trimChars (hyphens ++ piece)) :: documentsOf more := by
      rw [documents, pieces_unmarked front, split]
      exact documentsOf_cons (content_hyphens piece) more
    have start : Bare "---" := bare_marker (added ▸ List.mem_cons_self)
    refine ⟨?_, ⟨"---", _, added, iff_of_true start (.inl front), fun _ => alone.symm,
      fun none => absurd start none⟩, fun _ => ?_⟩
    · rw [added, before, List.length_cons, List.length_cons]
      by_cases none : content piece = []
      · simp [documentsOf_cons_of_eq, none, front]
      · simp [documentsOf_cons, none, front]
    · rw [Api.applyText, added, Api.applyDocuments, parse_marker]
  · -- The marker line stands in front of the first piece.
    have same : unmarked t.toList = t.toList := if_neg front
    rw [same] at split alone
    rw [String.ofList_toList] at alone
    rw [if_neg front, split, List.modifyHead_cons, documentsOf_cons (content_hyphens _)] at added
    have start := bare_marked_iff (added ▸ List.mem_cons_self)
    rw [added, List.length_cons, alone]
    by_cases none : content piece = []
    · -- All that the first piece has to show is the marker line.
      rw [documentsOf_cons_of_eq none]
      refine ⟨by simp [front, none], ⟨_, _, rfl, by simp [start, none], fun _ => ?_,
        fun full => absurd (start.mpr none) full⟩, fun opens => absurd opens front⟩
      rw [same, String.ofList_toList, alone, documentsOf_cons_of_eq none]
    · rw [documentsOf_cons none]
      obtain ⟨blanks, blank, whole⟩ := exists_marked none
      refine ⟨by simp [front, none], ⟨_, _, rfl, by simp [start, none, front],
        fun bare => absurd (start.mp bare) none, fun _ => ⟨blanks, _, blank, whole, rfl, ?_⟩⟩,
        fun opens => absurd opens front⟩
      rw [Api.applyText, Api.applyText, added, alone, documentsOf_cons none]
      refine ⟨fun equal => applyDocuments_congr equal _, fun failure cause fails missing => ?_⟩
      rw [Api.applyDocuments, Api.applyDocuments, fails, missing]
      exact ⟨rfl, rfl⟩

/-- A comment in front of a manifest is a document behind a marker line, and nothing is sent. -/
theorem comment_marked :
    let _ : Decode.Wording := .brief
    let t := "# license\n---\napiVersion: v1\nkind: ConfigMap\nmetadata:\n  name: a\n"
    let sent (text : String) := (Api.converse (fun _ => .lost "") (Api.applyText text)).2
    (documents (marked t)).length ≠ (documents t).length ∧ (∃ d ∈ documents (marked t), Bare d) ∧
      (sent (marked t)).length = 0 ∧ (sent t).length = 1 := by
  decide +kernel

/-- A manifest is applied the same way with a marker line in front. -/
theorem documents_marked_manifest :
    let _ : Decode.Wording := .brief
    let t := "apiVersion: v1\nkind: ConfigMap\nmetadata:\n  name: a\n"
    (documents (marked t)).length = (documents t).length ∧
      Api.applyText (marked t) = Api.applyText t := by
  -- The text has one document with a manifest, so the law's case without hyphens applies.
  intro _ t
  obtain ⟨count, ⟨first, rest, added, bare, -, same⟩, -, -⟩ := documents_marked t
  have plain : ¬ hyphens <+: t.toList := by decide +kernel
  have some : ¬ Idle t := by decide +kernel
  obtain ⟨before, d, -, -, alone, applied, -⟩ := same (by rw [bare]; simp [plain, some])
  refine ⟨count.mpr (iff_of_false plain some), applied ?_⟩
  have texts : documents (marked t) =
      ["---\napiVersion: v1\nkind: ConfigMap\nmetadata:\n  name: a"] ∧
      documents t = ["apiVersion: v1\nkind: ConfigMap\nmetadata:\n  name: a"] := by decide +kernel
  obtain ⟨rfl, -⟩ := List.cons.inj (added.symm.trans texts.1)
  obtain ⟨rfl, -⟩ := List.cons.inj (alone.symm.trans texts.2)
  have found : (parse "apiVersion: v1\nkind: ConfigMap\nmetadata:\n  name: a").isOk = true := by
    decide +kernel
  obtain ⟨m, holds⟩ := (Failure.isOk_iff _).mp found
  rw [holds]
  exact parse_of_tokens (t := .blockMappingStart) (by decide +kernel) (by simp) (by simp)
    (by decide +kernel) holds

end Manifest

end CsiOperator
