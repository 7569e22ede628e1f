import WordMachine.Text

/-!
The labels of a program and their addresses. Letter case does not tell two labels apart.
-/

set_option autoImplicit false

namespace WordMachine.Assembly

/-- Labels in upper case with their addresses, the latest first. -/
structure Symbols where
  entries : List (Text × Nat)

namespace Symbols

def empty : Symbols := ⟨[]⟩

def address? (symbols : Symbols) (label : Text) : Option Nat := symbols.entries.lookup label.upper

def define? (symbols : Symbols) (label : Text) (address : Nat) : Option Symbols :=
  match symbols.address? label with
  | some _ => none
  | none => some ⟨(label.upper, address) :: symbols.entries⟩

theorem address?_define {symbols extended : Symbols} {label : Text} {address : Nat}
    (defined : symbols.define? label address = some extended) :
    extended.address? label = some address := by
  unfold define? at defined
  split at defined
  · cases defined
  · cases defined
    exact List.lookup_cons_self

theorem address?_of_define {symbols extended : Symbols} {label other : Text}
    {address earlier : Nat} (defined : symbols.define? label address = some extended)
    (known : symbols.address? other = some earlier) : extended.address? other = some earlier := by
  unfold define? at defined
  split at defined
  · cases defined
  next unknown =>
    cases defined
    have different : (other.upper == label.upper) = false := by
      rw [beq_eq_false_iff_ne]
      intro same
      simp only [address?, same] at known unknown
      rw [unknown] at known
      cases known
    rw [address?, List.lookup_cons, different]
    exact known

end Symbols

end WordMachine.Assembly
