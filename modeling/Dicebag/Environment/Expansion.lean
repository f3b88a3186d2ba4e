/-!
# Dicebag.Environment.Expansion

References to variables inside values, `$` and the name in braces, with
or without a default behind `:-`.  Every reference is replaced by what
its name stands for, by its default if the name stands for nothing, or
else by nothing; what is no reference stays as it is.
-/

namespace Dicebag

/-- A reference to a variable. -/
structure Reference where
  name : List Char
  default : Option (List Char)

namespace Reference

/-- The characters of a name in a reference. -/
def isNameChar (c : Char) : Bool := c != '}' && c != ':'

/-- The reference that a text starts with, and the text behind it. -/
def read? : List Char → Option (Reference × List Char)
  | '$' :: '{' :: text =>
    let name := text.takeWhile isNameChar
    match text.dropWhile isNameChar with
    | '}' :: rest => some (⟨name, none⟩, rest)
    | ':' :: '-' :: behind =>
      match behind.dropWhile (· != '}') with
      | _ :: rest => some (⟨name, some (behind.takeWhile (· != '}'))⟩, rest)
      | [] => none
    | _ => none
  | _ => none

theorem length_lt_of_read? {text rest : List Char} {r : Reference}
    (h : read? text = some (r, rest)) : rest.length < text.length := by
  unfold read? at h
  split at h
  · rename_i text
    have hname := (List.dropWhile_suffix isNameChar (l := text)).length_le
    dsimp only at h
    split at h
    · rename_i heq
      cases h
      rw [heq] at hname
      simp only [List.length_cons] at hname ⊢
      omega
    · rename_i behind heq
      have hdefault := (List.dropWhile_suffix (· != '}') (l := behind)).length_le
      rw [heq] at hname
      split at h
      · rename_i heq
        cases h
        rw [heq] at hdefault
        simp only [List.length_cons] at hname hdefault ⊢
        omega
      · cases h
    · cases h
  · cases h

/-- What a reference is replaced by, if its name stands for
`value`. -/
def replacement (r : Reference) (value : Option (List Char)) : List Char :=
  value.getD (r.default.getD [])

/-- A text with its references replaced; `lookup` tells what names stand
for. -/
def expand (lookup : List Char → Option (List Char)) (text : List Char) : List Char :=
  match _h : read? text with
  | some (r, rest) => r.replacement (lookup r.name) ++ expand lookup rest
  | none =>
    match text with
    | [] => []
    | c :: rest => c :: expand lookup rest
termination_by text.length
decreasing_by
  · exact length_lt_of_read? (by assumption)
  · exact Nat.lt_succ_self _

end Reference

end Dicebag
