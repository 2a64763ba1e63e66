import Mathlib.Data.List.Count
import Mathlib.Data.List.Sort
import Mathlib.Data.Prod.Lex

/-! A backlog that is worked off in rounds, the oldest entries first. A round delivers what it can
of a batch of limited size and leaves the rest of the batch in place. -/
namespace CSO.Transition
variable {σ α κ : Type*}

/-- A batch that leaves out no entry older than one of its own. Ties are broken in any way. -/
structure Oldest [LinearOrder κ] (age : α → κ) (limit : ℕ) (pending batch : List α) : Prop where
  nodup : batch.Nodup
  subset : batch ⊆ pending
  length : batch.length = min limit pending.length
  sorted : batch.Pairwise fun a b => age a ≤ age b
  oldest : ∀ a ∈ batch, ∀ b ∈ pending, b ∉ batch → age a ≤ age b

/-- Entries that wait until they are delivered. -/
structure Backlog (σ α : Type*) [DecidableEq α] where
  pending : σ → List α
  deliver : σ → α → σ
  done : σ → α → Prop
  nodup : ∀ s, (pending s).Nodup
  pending_deliver : ∀ s a, a ∈ pending s → pending (deliver s a) = (pending s).filter (· ≠ a)
  done_deliver : ∀ s a, a ∈ pending s → done (deliver s a) a
  done_stays : ∀ s a b, done s b → done (deliver s a) b
  not_done : ∀ s a, a ∈ pending s → ¬done s a

/-- A batch by the order of a key that breaks the ties of the age. -/
theorem oldest_take [LinearOrder κ] {ι : Type*} [LinearOrder ι] {age : α → κ} {key : α → ι}
    (hkey : ∀ a b, key a ≤ key b → age a ≤ age b) (limit : ℕ) {pending : List α}
    (hn : pending.Nodup) :
    Oldest age limit pending
      ((pending.insertionSort fun a b => key a ≤ key b).take limit) := by
  have hperm := List.perm_insertionSort (fun a b => key a ≤ key b) pending
  have hsorted := List.pairwise_insertionSort (fun a b => key a ≤ key b) pending
  have hage := hsorted.imp fun {a b} h => hkey a b h
  generalize List.insertionSort (fun a b => key a ≤ key b) pending = sorted at hperm hsorted hage
  refine ⟨(hperm.nodup_iff.mpr hn).sublist (List.take_sublist _ _), ?_, ?_, ?_, ?_⟩
  · intro a ha
    exact hperm.mem_iff.mp (List.mem_of_mem_take ha)
  · rw [List.length_take, hperm.length_eq]
  · exact hage.sublist (List.take_sublist _ _)
  · intro a ha b hb hout
    rw [← hperm.mem_iff, ← List.take_append_drop limit sorted, List.mem_append] at hb
    rw [← List.take_append_drop limit sorted] at hage
    exact (List.pairwise_append.mp hage).2.2 a ha b (hb.resolve_left hout)

/-- The order in which the stuck entries come first among those of one age. -/
def stuckFirst (age : α → κ) (stuck : α → Bool) (a : α) : κ ×ₗ Bool := toLex (age a, !stuck a)

theorem stuckFirst_le [LinearOrder κ] {age : α → κ} {stuck : α → Bool} {a b : α} (h : stuckFirst age stuck a ≤ stuckFirst age stuck b) :
    age a ≤ age b ∧ (stuck a = false → stuck b = true → age a < age b) := by
  rcases Prod.Lex.le_iff.mp h with hlt | ⟨heq, hle⟩
  · exact ⟨le_of_lt hlt, fun _ _ => hlt⟩
  · refine ⟨le_of_eq heq, ?_⟩
    intro ha hb
    simp [stuckFirst, ha, hb] at hle
    exact absurd hle (by decide)

/-- An entry that a batch of stuck entries blocks. -/
theorem stuckFirst_blocked [LinearOrder κ] {age : α → κ} {stuck : α → Bool} {pending : List α}
    {limit : ℕ} {a : α} (halive : stuck a = false)
    (hblocked : limit ≤ pending.countP fun b => stuck b ∧ age b ≤ age a) :
    a ∉ (pending.insertionSort fun a b =>
      stuckFirst age stuck a ≤ stuckFirst age stuck b).take limit := by
  have hperm := List.perm_insertionSort
    (fun a b => stuckFirst age stuck a ≤ stuckFirst age stuck b) pending
  have hsorted := List.pairwise_insertionSort
    (fun a b => stuckFirst age stuck a ≤ stuckFirst age stuck b) pending
  intro hin
  rw [← hperm.countP_eq] at hblocked
  generalize List.insertionSort (fun a b => stuckFirst age stuck a ≤ stuckFirst age stuck b)
    pending = sorted at hsorted hin hblocked
  obtain ⟨before, after, hsplit⟩ := List.append_of_mem hin
  have hlength : before.length < limit := by
    have hle : (sorted.take limit).length ≤ limit := List.length_take_le limit sorted
    rw [hsplit, List.length_append, List.length_cons] at hle
    omega
  rw [← List.take_append_drop limit sorted, hsplit, List.append_assoc, List.cons_append]
    at hsorted hblocked
  -- Whatever comes after the entry is not stuck or is younger.
  have hlater := (List.pairwise_cons.mp (List.pairwise_append.mp hsorted).2.1).1
  have hself : ¬(stuck a = true ∧ age a ≤ age a) := by simp [halive]
  have hnone : (after ++ sorted.drop limit).countP (fun b => stuck b ∧ age b ≤ age a) = 0 := by
    rw [List.countP_eq_zero]
    intro b hb hcounts
    obtain ⟨hstuck, hage⟩ := of_decide_eq_true hcounts
    exact absurd hage (not_le_of_gt ((stuckFirst_le (hlater b hb)).2 halive hstuck))
  rw [List.countP_append, List.countP_cons, hnone, decide_eq_false hself] at hblocked
  have hfew : before.countP (fun b => stuck b ∧ age b ≤ age a) ≤ before.length :=
    List.countP_le_length
  simp only [Bool.false_eq_true, if_false] at hblocked
  omega

namespace Backlog
variable [DecidableEq α] [LinearOrder κ] (B : Backlog σ α) (age : α → κ) (limit : ℕ)
  (stuck : α → Bool)

/-- The loop over a batch. What cannot be delivered is left for the next round. -/
def work (s : σ) (batch : List α) : σ :=
  batch.foldl (fun s a => if stuck a then s else B.deliver s a) s

def Round (s t : σ) : Prop :=
  ∃ batch, Oldest age limit (B.pending s) batch ∧ t = B.work stuck s batch

/-- Whatever batches the rounds take, they deliver all that can be delivered. -/
def Drains (s : σ) : Prop :=
  ∀ run : ℕ → σ, run 0 = s → (∀ n, B.Round age limit stuck (run n) (run (n + 1))) →
    ∃ n, ∀ a ∈ B.pending s, stuck a = false → B.done (run n) a

/-- The entries that are stuck and no younger than `a`. -/
def ahead (a : α) (s : σ) : ℕ := (B.pending s).countP fun b => stuck b ∧ age b ≤ age a

/-- What can be delivered has fewer entries ahead of it than a batch takes. -/
def Unblocked (s : σ) : Prop :=
  ∀ a ∈ B.pending s, stuck a = false → B.ahead age stuck a s < limit

variable {B age limit stuck} {s t : σ} {batch : List α}

theorem work_cons (a : α) : B.work stuck s (a :: batch) =
    B.work stuck (if stuck a then s else B.deliver s a) batch := rfl

theorem done_work {a : α} (h : B.done s a) : B.done (B.work stuck s batch) a := by
  induction batch generalizing s with
  | nil => exact h
  | cons b batch ih =>
    rw [work_cons]
    apply ih
    split_ifs
    · exact h
    · exact B.done_stays s b a h

/-- The loop delivers the entries of its batch that are not stuck. -/
theorem work_spec (stuck : α → Bool) (hn : batch.Nodup) (hsub : batch ⊆ B.pending s) :
    B.pending (B.work stuck s batch) =
        (B.pending s).filter (fun b => stuck b ∨ b ∉ batch) ∧
      ∀ a ∈ batch, stuck a = false → B.done (B.work stuck s batch) a := by
  induction batch generalizing s with
  | nil =>
    refine ⟨?_, by simp⟩
    rw [List.filter_eq_self.mpr (by simp)]
    rfl
  | cons a batch ih =>
    obtain ⟨hout, hn⟩ := List.nodup_cons.mp hn
    obtain ⟨ha, hsub⟩ := List.cons_subset.mp hsub
    rw [work_cons]
    by_cases hstuck : stuck a = true
    · rw [if_pos hstuck]
      obtain ⟨hpending, hdone⟩ := ih hn hsub
      constructor
      · rw [hpending]
        apply List.filter_congr
        intro b _
        by_cases hba : b = a
        · simp [hba, hstuck]
        · simp [hba]
      · intro b hb halive
        rcases List.mem_cons.mp hb with rfl | hb
        · rw [hstuck] at halive
          cases halive
        · exact hdone b hb halive
    · rw [if_neg hstuck]
      have hdeliver := B.pending_deliver s a ha
      have hrest : batch ⊆ B.pending (B.deliver s a) := by
        intro b hb
        rw [hdeliver]
        refine List.mem_filter.mpr ⟨hsub hb, ?_⟩
        have hne : b ≠ a := fun heq => hout (heq ▸ hb)
        simpa using hne
      obtain ⟨hpending, hdone⟩ := ih hn hrest
      constructor
      · rw [hpending, hdeliver, List.filter_filter]
        apply List.filter_congr
        intro b _
        by_cases hba : b = a
        · simp [hba, hstuck]
        · simp [hba]
      · intro b hb halive
        rcases List.mem_cons.mp hb with rfl | hb
        · exact done_work (B.done_deliver s b ha)
        · exact hdone b hb halive

/-- A round keeps the entries that are stuck, and what it takes out is done. -/
theorem Round.spec (h : B.Round age limit stuck s t) :
    (B.pending t).Sublist (B.pending s) ∧
      (∀ a ∈ B.pending s, a ∈ B.pending t ∨ B.done t a) ∧
      (∀ a, B.done s a → B.done t a) := by
  obtain ⟨batch, hbatch, rfl⟩ := h
  obtain ⟨hpending, hdone⟩ := work_spec stuck hbatch.nodup hbatch.subset
  refine ⟨hpending ▸ List.filter_sublist, ?_, fun a => done_work⟩
  intro a ha
  rw [hpending]
  by_cases hleft : stuck a = true ∨ a ∉ batch
  · exact Or.inl (List.mem_filter.mpr ⟨ha, decide_eq_true hleft⟩)
  · push Not at hleft
    exact Or.inr (hdone a hleft.2 (Bool.eq_false_iff.mpr hleft.1))

theorem Unblocked.round (h : B.Unblocked age limit stuck s) (hr : B.Round age limit stuck s t) :
    B.Unblocked age limit stuck t := by
  obtain ⟨hsub, -, -⟩ := hr.spec
  intro a ha halive
  exact lt_of_le_of_lt hsub.countP_le (h a (hsub.subset ha) halive)

/-- Some entry of the batch is not stuck, as long as one that is not stuck waits. -/
theorem Unblocked.exists_mem (h : B.Unblocked age limit stuck s)
    (hbatch : Oldest age limit (B.pending s) batch) {a : α} (ha : a ∈ B.pending s)
    (halive : stuck a = false) : ∃ b ∈ batch, stuck b = false := by
  by_contra hnone
  push Not at hnone
  have hall : ∀ b ∈ batch, stuck b = true := fun b hb => by simpa using hnone b hb
  have hout : a ∉ batch := fun hin => hnone a hin halive
  have hcount : batch.length ≤ B.ahead age stuck a s := by
    have hself : batch.countP (fun b => stuck b ∧ age b ≤ age a) = batch.length := by
      rw [List.countP_eq_length]
      intro b hb
      exact decide_eq_true ⟨hall b hb, hbatch.oldest b hb a ha hout⟩
    rw [← hself]
    exact (List.subperm_of_subset hbatch.nodup hbatch.subset).countP_le _
  have hlt := h a ha halive
  -- The batch is full, since an entry is left out.
  have hlong : batch.length < (B.pending s).length := by
    have hcons : (a :: batch).Subperm (B.pending s) :=
      List.subperm_of_subset (List.nodup_cons.mpr ⟨hout, hbatch.nodup⟩)
        (List.cons_subset.mpr ⟨ha, hbatch.subset⟩)
    exact hcons.length_le
  have hlength := hbatch.length
  omega

/-- The entries that a round can still deliver. -/
def waiting (B : Backlog σ α) (stuck : α → Bool) (s : σ) : ℕ :=
  (B.pending s).countP fun a => !stuck a

theorem waiting_eq_zero : B.waiting stuck s = 0 ↔ ∀ a ∈ B.pending s, stuck a = true := by
  simp [waiting, List.countP_eq_zero]

theorem Unblocked.waiting_lt (h : B.Unblocked age limit stuck s)
    (hr : B.Round age limit stuck s t) (hw : B.waiting stuck s ≠ 0) :
    B.waiting stuck t < B.waiting stuck s := by
  obtain ⟨batch, hbatch, rfl⟩ := hr
  obtain ⟨hpending, -⟩ := work_spec stuck hbatch.nodup hbatch.subset
  rw [Ne, waiting_eq_zero] at hw
  push Not at hw
  obtain ⟨a, ha, halive⟩ := hw
  obtain ⟨b, hb, hstuck⟩ := h.exists_mem hbatch ha (Bool.eq_false_iff.mpr halive)
  have hbefore : B.waiting stuck s = ((B.pending s).filter fun a => !stuck a).length :=
    List.countP_eq_length_filter
  have hafter : B.waiting stuck (B.work stuck s batch) =
      ((B.pending s).filter fun a => !stuck a).countP (fun a => stuck a ∨ a ∉ batch) := by
    rw [waiting, hpending, List.countP_filter, List.countP_filter]
    simp only [Bool.and_comm]
  rw [hbefore, hafter, List.countP_lt_length_iff]
  refine ⟨b, List.mem_filter.mpr ⟨hbatch.subset hb, by simp [hstuck]⟩, ?_⟩
  simp [hstuck, hb]

/-- With few enough entries that are stuck, the rounds come to an end. -/
theorem Unblocked.drains (h : B.Unblocked age limit stuck s) : B.Drains age limit stuck s := by
  rintro run rfl hround
  have hunblocked : ∀ n, B.Unblocked age limit stuck (run n) := by
    intro n
    induction n with
    | zero => exact h
    | succ n ih => exact ih.round (hround n)
  have hkept : ∀ n, ∀ a ∈ B.pending (run 0), a ∈ B.pending (run n) ∨ B.done (run n) a := by
    intro n
    induction n with
    | zero => exact fun a ha => Or.inl ha
    | succ n ih =>
      obtain ⟨-, hpending, hdone⟩ := (hround n).spec
      intro a ha
      rcases ih a ha with hin | hd
      · exact hpending a hin
      · exact Or.inr (hdone a hd)
  have hless : ∀ n, B.waiting stuck (run n) = 0 ∨
      B.waiting stuck (run n) + n ≤ B.waiting stuck (run 0) := by
    intro n
    induction n with
    | zero => exact Or.inr le_rfl
    | succ n ih =>
      have hle : B.waiting stuck (run (n + 1)) ≤ B.waiting stuck (run n) :=
        (hround n).spec.1.countP_le
      by_cases hzero : B.waiting stuck (run n) = 0
      · exact Or.inl (by omega)
      · have hlt := (hunblocked n).waiting_lt (hround n) hzero
        have hsum := ih.resolve_left hzero
        exact Or.inr (by omega)
  refine ⟨B.waiting stuck (run 0) + 1, ?_⟩
  intro a ha halive
  have hzero : B.waiting stuck (run (B.waiting stuck (run 0) + 1)) = 0 :=
    (hless _).resolve_right (by omega)
  rcases hkept _ a ha with hin | hd
  · have hstuck := waiting_eq_zero.mp hzero a hin
    rw [halive] at hstuck
    cases hstuck
  · exact hd

/-- A round that takes the stuck entries first leaves out an entry that a batch of them blocks. -/
theorem blocked_round {a : α} (ha : a ∈ B.pending s) (halive : stuck a = false)
    (hblocked : limit ≤ B.ahead age stuck a s) :
    ∃ t, B.Round age limit stuck s t ∧ a ∈ B.pending t ∧ limit ≤ B.ahead age stuck a t := by
  unfold ahead at hblocked ⊢
  have hkey : ∀ a b, stuckFirst age stuck a ≤ stuckFirst age stuck b → age a ≤ age b :=
    fun _ _ h => (stuckFirst_le h).1
  have hbatch := oldest_take hkey limit (B.nodup s)
  have hout := stuckFirst_blocked halive hblocked
  obtain ⟨hpending, -⟩ := work_spec stuck hbatch.nodup hbatch.subset
  refine ⟨_, ⟨_, hbatch, rfl⟩, ?_, ?_⟩
  · rw [hpending]
    exact List.mem_filter.mpr ⟨ha, decide_eq_true (Or.inr hout)⟩
  · rw [hpending, List.countP_filter]
    apply le_trans hblocked
    apply List.countP_mono_left
    intro b _ hb
    have hstuck := (of_decide_eq_true hb).1
    simp only [Bool.and_eq_true, decide_eq_true_eq]
    exact ⟨of_decide_eq_true hb, Or.inl hstuck⟩

/-- The rounds deliver what can be delivered if and only if too few entries are stuck to block
one of the others. -/
theorem drains_iff : B.Drains age limit stuck s ↔ B.Unblocked age limit stuck s := by
  refine ⟨?_, Unblocked.drains⟩
  intro hdrains a ha halive
  by_contra hblocked
  push Not at hblocked
  obtain ⟨next, hnext⟩ : ∃ next : { t // a ∈ B.pending t ∧ limit ≤ B.ahead age stuck a t } →
      { t // a ∈ B.pending t ∧ limit ≤ B.ahead age stuck a t },
      ∀ p, B.Round age limit stuck p.1 (next p).1 := by
    choose next hround hkept using
      fun p : { t // a ∈ B.pending t ∧ limit ≤ B.ahead age stuck a t } =>
        blocked_round p.2.1 halive p.2.2
    exact ⟨fun p => ⟨next p, hkept p⟩, hround⟩
  obtain ⟨n, hn⟩ := hdrains (fun n => (next^[n] ⟨s, ha, hblocked⟩).1) rfl (by
    intro n
    rw [Function.iterate_succ_apply']
    exact hnext _)
  exact B.not_done _ a (next^[n] ⟨s, ha, hblocked⟩).2.1 (hn a ha halive)

end Backlog
end CSO.Transition
