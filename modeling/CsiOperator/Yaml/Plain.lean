import CsiOperator.Yaml.Gap

/-! Scalars without quotes. -/

namespace CsiOperator.Yaml.Plain

/-- The brackets and braces of flow collections. -/
def isBracket (c : Char) : Bool :=
  c == '[' || c == ']' || c == '\x7b' || c == '\x7d'

/-- A plain scalar may start here. -/
def startsAt (flow : Bool) : List Char → Bool
  -- Hyphens, question marks and colons may begin a text where no blank follows.
  | [] => false
  | c :: rest =>
    if isGap c then false
    else if c == '-' then !(rest.head?.any isBlank)
    else if c == '?' || c == ':' then !flow && !endsWord rest
    else !(isBracket c || [',', '#', '&', '*', '!', '|', '>', '\'', '"', '%', '@', '\x60'].contains c)

/-- A colon that no plain scalar in a flow collection may hold. -/
def isStrayColon (flow : Bool) (c : Char) (rest : List Char) : Bool :=
  flow && c == ':' && rest.head?.any fun d => d == ',' || d == '?' || isBracket d

/-- A plain scalar ends before this character. -/
def endsBefore (flow : Bool) (c : Char) (rest : List Char) : Bool :=
  (c == ':' && endsWord rest) || (flow && (c == ',' || isBracket c))

/-- A plain scalar that has been read. -/
structure Result where
  /-- Its text. -/
  text : List Char
  /-- A line has ended after its last character. -/
  broken : Bool
  /-- The place after it and the blanks that follow. -/
  cursor : Cursor

/-- Reads on in a plain scalar. Its lines go on as long as they are indented by more than `indent`;
in a flow collection they always do. -/
def scan (flow : Bool) (indent : Int) : (inGap : Bool) → Gap → (acc : List Char) → Place →
    List Char → Option Result
  -- A gap belongs to the text only if more of the text follows on a line of its own.
  | _, gap, acc, p, [] => some ⟨acc.reverse, gap.broken, ⟨p, []⟩⟩
  | inGap, gap, acc, p, c :: rest =>
    if isBlank c then
      if gap.broken && (p.column : Int) ≤ indent && c == '\t' then none
      else scan flow indent true (gap.blank c) acc p.next rest
    else if isBreak c then scan flow indent true (gap.newline c) acc p.newline rest
    else if inGap && ((!flow && (p.column : Int) ≤ indent) ||
        (p.column == 0 && isBoundary (c :: rest)) || c == '#') then
      some ⟨acc.reverse, gap.broken, ⟨p, c :: rest⟩⟩
    else if isStrayColon flow c rest then none
    else if endsBefore flow c rest then some ⟨acc.reverse, gap.broken, ⟨p, c :: rest⟩⟩
    else scan flow indent false Gap.none (c :: (gap.text.reverse ++ acc)) p.next rest

end CsiOperator.Yaml.Plain
