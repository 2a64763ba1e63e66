import CSO.Transition.Machine

/-! A store in memory beside a database: both are called in the same way, and what every call that
the memory can do preserves makes them answer alike. -/
namespace CSO.Transition

/-- The answer of a call and the store after it, in memory and in the database. -/
structure Double (μ σ κ α : Type) where
  memory : κ → μ → α × μ
  database : κ → σ → α × σ

namespace Double

variable {μ σ κ α : Type} (D : Double μ σ κ α)

def machine : Machine (μ × σ) κ where
  step s call := some ((D.memory call s.1).2, (D.database call s.2).2)

/-- The call is answered alike. -/
def Alike (s : μ × σ) (call : κ) : Prop := (D.memory call s.1).1 = (D.database call s.2).1

variable {D} {R : μ → σ → Prop} {Kept : μ × σ → κ → Prop}

theorem alike_run (hstep : ∀ s call, R s.1 s.2 → Kept s call → D.Alike s call ∧
      R (D.memory call s.1).2 (D.database call s.2).2)
    {s t : μ × σ} {calls : List κ} (h : R s.1 s.2) (hrun : D.machine.run s calls = some t)
    (hkept : D.machine.Along (fun s call _ => Kept s call) s calls) :
    D.machine.Along (fun s call _ => D.Alike s call) s calls ∧ R t.1 t.2 := by
  have hinvariant : ∀ s call t, R s.1 s.2 → D.machine.step s call = some t → Kept s call →
      R t.1 t.2 := by
    intro s call t h ht hkept
    cases ht
    exact (hstep s call h hkept).2
  constructor
  · exact Machine.along_of_along (I := fun s => R s.1 s.2) hinvariant
      (fun s call _ h _ hkept => (hstep s call h hkept).1) h hkept
  · exact Machine.run_invariant_along (I := fun s => R s.1 s.2) hinvariant h hkept hrun

end Double

/-- A text that Postgres keeps has no character U+0000. -/
def IsPostgresText (text : String) : Prop := Char.ofNat 0 ∉ text.toList

instance : DecidablePred IsPostgresText := fun _ => inferInstanceAs (Decidable (_ ∉ _))

end CSO.Transition
