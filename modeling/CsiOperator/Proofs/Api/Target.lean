import CsiOperator.Api.Request
import Mathlib.Data.List.TakeWhile

/-! A path with parameters becomes a target as it is written, unless a mark inside of it ends it. -/

namespace CsiOperator.Api.Target

/-- A character that does not end the path of a target. -/
def staysInPath (c : Char) : Bool :=
  c != '?' && c != '#'

/-- The path of a target is what a text has before its first question mark or number sign. -/
theorem path_toList_of_ofText {text : String} {t : Target} (made : ofText text = .ok t) :
    t.path.toList = text.toList.takeWhile staysInPath := by
  -- Cutting at the number sign and then at the question mark is cutting at whichever comes first.
  have cut : (text.toList.takeWhile (· != '#')).takeWhile (· != '?') =
      text.toList.takeWhile staysInPath := by
    rw [List.takeWhile_takeWhile]
    refine congrArg (List.takeWhile · _) (funext fun c => ?_)
    rw [Bool.decide_and, Bool.decide_coe, Bool.decide_coe]
    rfl
  simp only [ofText] at made
  split at made
  · cases made
  · split at made
    · obtain rfl := Except.ok.inj made
      rw [String.toList_ofList, cut]
    · cases made

/-- A path ends with the first question mark or number sign, wherever that comes from. -/
theorem path_of_ofText {path parameters : String} {t : Target}
    (made : ofText (path ++ ("?" ++ parameters)) = .ok t) :
    t.path.toList = path.toList.takeWhile staysInPath := by
  -- The question mark before the parameters ends the path if nothing before it does.
  have ends : (path ++ ("?" ++ parameters)).toList.takeWhile staysInPath =
      path.toList.takeWhile staysInPath := by
    rw [String.toList_append, String.toList_append, List.takeWhile_append]
    split
    · rename_i whole
      have last : ("?".toList ++ parameters.toList).takeWhile staysInPath = [] := rfl
      rw [last, List.append_nil]
      exact ((List.takeWhile_prefix _).eq_of_length whole).symm
    · rfl
  rw [path_toList_of_ofText made, ends]

/-- A path without such a mark is the path of the target, if all its characters may stand in one. -/
theorem ofText_plain {path parameters : String} (plain : ∀ c ∈ path.toList, staysInPath c)
    (unmarked : ∀ c ∈ parameters.toList, c != '#') :
    ofText (path ++ ("?" ++ parameters)) =
      if maxBytes < (path ++ ("?" ++ parameters)).utf8ByteSize then
        .error (.request "failed to build request: uri too long")
      else if path.toList.all inPath && parameters.toList.all inQuery then .ok ⟨path, parameters⟩
      else .error (.request "failed to build request: invalid uri character") := by
  -- Neither of the marks that end a path occurs in this one.
  have asked : ∀ c ∈ path.toList, c != '?' := fun c member =>
    (Bool.and_eq_true_iff.mp (plain c member)).1
  have signed : ∀ c ∈ path.toList, c != '#' := fun c member =>
    (Bool.and_eq_true_iff.mp (plain c member)).2
  -- No number sign ends the text early.
  have whole : (path ++ ("?" ++ parameters)).toList.takeWhile (· != '#') =
      path.toList ++ '?' :: parameters.toList := by
    rw [String.toList_append, String.toList_append, List.takeWhile_append_of_pos signed]
    refine congrArg (path.toList ++ ·) ?_
    show '?' :: parameters.toList.takeWhile (· != '#') = _
    rw [List.takeWhile_eq_self_iff.mpr unmarked]
  -- The first question mark is the one that joins the path and the parameters.
  have front : (path.toList ++ '?' :: parameters.toList).takeWhile (· != '?') = path.toList := by
    rw [List.takeWhile_append_of_pos asked, List.takeWhile_cons_of_neg (by decide), List.append_nil]
  have back : ((path.toList ++ '?' :: parameters.toList).dropWhile (· != '?')).drop 1 =
      parameters.toList := by
    rw [List.dropWhile_append_of_pos asked, List.dropWhile_cons_of_neg (by decide), List.drop_one,
      List.tail_cons]
  simp only [ofText, whole, front, back, String.ofList_toList]

/-- A character that may stand in a path does not end it. -/
theorem staysInPath_of_inPath {c : Char} (allowed : inPath c) : staysInPath c := by
  -- Neither of the two marks is among the characters that are allowed.
  rw [staysInPath, Bool.and_eq_true, bne_iff_ne, bne_iff_ne]
  constructor
  · intro mark
    exact absurd (mark ▸ allowed) (by decide)
  · intro mark
    exact absurd (mark ▸ allowed) (by decide)

end CsiOperator.Api.Target
