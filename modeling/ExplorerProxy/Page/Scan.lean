/-!
# Fixed texts in pages
-/

namespace ExplorerProxy.Page

set_option autoImplicit false

def after? : List Char → List Char → Option (List Char)
  | [], page => some page
  | _ :: _, [] => none
  | t :: ts, c :: page => if t = c then after? ts page else none

theorem after?_eq_some {fixed page rest : List Char} :
    after? fixed page = some rest ↔ page = fixed ++ rest := by
  induction fixed generalizing page with
  | nil => simp [after?, eq_comm]
  | cons t ts ih =>
    cases page with
    | nil => simp [after?]
    | cons c page =>
      by_cases h : t = c
      · simp [after?, h, ih]
      · simp [after?, h, Ne.symm h]

end ExplorerProxy.Page
