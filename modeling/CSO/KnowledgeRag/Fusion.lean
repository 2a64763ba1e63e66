import CSO.KnowledgeRag.Release
import CSO.Transition.Ranking
import CSO.Transition.Upsert
import Mathlib.Algebra.Order.Ring.Rat
import Mathlib.Data.Prod.Lex
import Mathlib.Data.String.Basic

/-! Reciprocal rank fusion of the results of several retrievers, with exact scores. -/
namespace CSO.KnowledgeRag
open Transition (ranked place)

structure RankedCandidate where
  indexDocumentId : String
  rank : ℕ
  rankPositive : 0 < rank
  deriving DecidableEq, Repr

structure FusedCandidate where
  indexDocumentId : String
  reciprocalRankFusionScore : ℚ
  contributingRetrievers : List String
  deriving DecidableEq, Repr

/-- `not text.strip()`. -/
def isBlank (text : String) : Bool := text.toList.all isSpace

def RankedCandidate.contribution (rankConstant : ℤ) (candidate : RankedCandidate) : ℚ :=
  1 / (rankConstant + candidate.rank)

/-- The entries of `fused_scores` and `contributing_retrievers` under an id, which is new at the end
of both, or has them already. -/
def addContribution (retrieverName indexDocumentId : String) (contribution : ℚ)
    (fused : List FusedCandidate) : List FusedCandidate :=
  if fused.any fun entry => entry.indexDocumentId = indexDocumentId then
    fused.map fun entry =>
      if entry.indexDocumentId = indexDocumentId then
        { entry with
          reciprocalRankFusionScore := entry.reciprocalRankFusionScore + contribution
          contributingRetrievers := entry.contributingRetrievers ++ [retrieverName] }
      else entry
  else fused ++ [⟨indexDocumentId, 0 + contribution, [retrieverName]⟩]

def duplicateMessage (retrieverName indexDocumentId : String) : String :=
  "Retriever '" ++ retrieverName ++ "' returned duplicate index document ID '" ++
    indexDocumentId ++ "'."

/-- The inner loop, with the ids that it has seen. -/
def addCandidates (rankConstant : ℤ) (retrieverName : String) :
    List String → List FusedCandidate → List RankedCandidate → Except String (List FusedCandidate)
  | _, fused, [] => .ok fused
  | seen, fused, candidate :: candidates =>
    if candidate.indexDocumentId ∈ seen then
      .error (duplicateMessage retrieverName candidate.indexDocumentId)
    else
      addCandidates rankConstant retrieverName (candidate.indexDocumentId :: seen)
        (addContribution retrieverName candidate.indexDocumentId
          (candidate.contribution rankConstant) fused) candidates

/-- The outer loop. -/
def addRetrievers (rankConstant : ℤ) :
    List FusedCandidate → List (String × List RankedCandidate) →
      Except String (List FusedCandidate)
  | fused, [] => .ok fused
  | fused, (retrieverName, candidates) :: retrievers =>
    if isBlank retrieverName then .error "Retriever names must be non-empty"
    else addCandidates rankConstant retrieverName [] fused candidates >>= fun fused =>
      addRetrievers rankConstant fused retrievers

/-- The sort key `(-score, id)`. -/
def sortKey (score : ℚ) (indexDocumentId : String) : ℚ ×ₗ String :=
  toLex (-score, indexDocumentId)

def FusedCandidate.key (candidate : FusedCandidate) : ℚ ×ₗ String :=
  sortKey candidate.reciprocalRankFusionScore candidate.indexDocumentId

def reciprocalRankFusion (rankedCandidatesByRetriever : List (String × List RankedCandidate))
    (rankConstant topK : ℤ) : Except String (List FusedCandidate) :=
  if rankConstant ≤ 0 then .error "rank_constant must be positive"
  else if topK ≤ 0 then .error "top_k must be positive"
  else do
    let fused ← addRetrievers rankConstant [] rankedCandidatesByRetriever
    return (ranked FusedCandidate.key fused).take topK.toNat

/-- Ranks that are positions. -/
def rankedByPosition (indexDocumentIds : List String) : List RankedCandidate :=
  indexDocumentIds.zipIdx.map fun (indexDocumentId, index) =>
    ⟨indexDocumentId, index + 1, Nat.succ_pos index⟩

example : (reciprocalRankFusion [("vector", rankedByPosition ["A", "B"]),
      ("keyword", rankedByPosition ["B", "D"])] 60 20).map
    (List.map fun candidate => (candidate.indexDocumentId, candidate.contributingRetrievers)) =
    .ok [("B", ["vector", "keyword"]), ("A", ["vector"]), ("D", ["keyword"])] := by decide +kernel

/-- What a document gets from the retrievers that return it. -/
def fusedScore (rankConstant : ℤ) (candidates : List RankedCandidate) (indexDocumentId : String) :
    ℚ :=
  ((candidates.filter fun candidate => candidate.indexDocumentId = indexDocumentId).map
    (RankedCandidate.contribution rankConstant)).sum

/-- The entries that the loops have made of the candidates so far. -/
structure Fuses (rankConstant : ℤ) (candidates : List RankedCandidate)
    (fused : List FusedCandidate) : Prop where
  nodup : (fused.map FusedCandidate.indexDocumentId).Nodup
  mem : ∀ indexDocumentId, indexDocumentId ∈ fused.map FusedCandidate.indexDocumentId ↔
    indexDocumentId ∈ candidates.map RankedCandidate.indexDocumentId
  score : ∀ entry ∈ fused, entry.reciprocalRankFusionScore =
    fusedScore rankConstant candidates entry.indexDocumentId

variable {rankConstant topK : ℤ} {candidates : List RankedCandidate}
  {fused fused' : List FusedCandidate} {retrieverName indexDocumentId : String}
  {retrievers retrievers' : List (String × List RankedCandidate)}

theorem fusedScore_append (candidates candidates' : List RankedCandidate) :
    fusedScore rankConstant (candidates ++ candidates') indexDocumentId =
      fusedScore rankConstant candidates indexDocumentId +
        fusedScore rankConstant candidates' indexDocumentId := by
  rw [fusedScore, List.filter_append, List.map_append, List.sum_append]
  rfl

theorem fusedScore_perm {candidates' : List RankedCandidate} (h : candidates.Perm candidates') :
    fusedScore rankConstant candidates indexDocumentId =
      fusedScore rankConstant candidates' indexDocumentId :=
  ((h.filter _).map _).sum_eq

theorem fusedScore_singleton (candidate : RankedCandidate) :
    fusedScore rankConstant [candidate] indexDocumentId =
      if candidate.indexDocumentId = indexDocumentId then candidate.contribution rankConstant
      else 0 := by
  unfold fusedScore
  by_cases hid : candidate.indexDocumentId = indexDocumentId <;> simp [hid]

theorem fusedScore_eq_zero (h : indexDocumentId ∉ candidates.map RankedCandidate.indexDocumentId) :
    fusedScore rankConstant candidates indexDocumentId = 0 := by
  have hnone : candidates.filter (fun candidate =>
      candidate.indexDocumentId = indexDocumentId) = [] := by
    rw [List.filter_eq_nil_iff]
    intro candidate hmem hid
    exact h (List.mem_map.mpr ⟨candidate, hmem, of_decide_eq_true hid⟩)
  rw [fusedScore, hnone]
  rfl

theorem Fuses.add (h : Fuses rankConstant candidates fused) (candidate : RankedCandidate) :
    Fuses rankConstant (candidates ++ [candidate]) (addContribution retrieverName
      candidate.indexDocumentId (candidate.contribution rankConstant) fused) := by
  unfold addContribution
  split_ifs with hknown
  · have hids : (fused.map fun entry => if entry.indexDocumentId = candidate.indexDocumentId then
        { entry with
          reciprocalRankFusionScore := entry.reciprocalRankFusionScore +
            candidate.contribution rankConstant
          contributingRetrievers := entry.contributingRetrievers ++ [retrieverName] }
        else entry).map FusedCandidate.indexDocumentId =
        fused.map FusedCandidate.indexDocumentId := by
      rw [List.map_map]
      refine List.map_congr_left fun entry _ => ?_
      simp only [Function.comp_apply]
      split_ifs <;> rfl
    have hmem : candidate.indexDocumentId ∈ fused.map FusedCandidate.indexDocumentId := by
      obtain ⟨entry, hentry, hid⟩ := List.any_eq_true.mp hknown
      exact List.mem_map.mpr ⟨entry, hentry, of_decide_eq_true hid⟩
    refine ⟨by rw [hids]; exact h.nodup, fun id => ?_, fun entry' hentry' => ?_⟩
    · rw [hids, List.map_append, List.mem_append, h.mem, List.map_singleton, List.mem_singleton]
      constructor
      · exact Or.inl
      · rintro (hold | rfl)
        · exact hold
        · exact (h.mem _).mp hmem
    · obtain ⟨entry, hentry, rfl⟩ := List.mem_map.mp hentry'
      have hscore := h.score entry hentry
      split_ifs with hid
      · simp only
        rw [fusedScore_append, fusedScore_singleton, if_pos hid.symm, hscore]
      · rw [fusedScore_append, fusedScore_singleton, if_neg (Ne.symm hid), add_zero, hscore]
  · have hnew : candidate.indexDocumentId ∉ fused.map FusedCandidate.indexDocumentId := by
      intro hmem
      obtain ⟨entry, hentry, hid⟩ := List.mem_map.mp hmem
      exact hknown (List.any_eq_true.mpr ⟨entry, hentry, decide_eq_true hid⟩)
    refine ⟨?_, fun id => ?_, fun entry hentry => ?_⟩
    · refine Transition.Table.nodup_concat h.nodup fun entry hentry hid => hnew ?_
      exact List.mem_map.mpr ⟨entry, hentry, hid⟩
    · rw [List.map_append, List.map_append, List.mem_append, List.mem_append, h.mem]
      rfl
    · rw [fusedScore_append, fusedScore_singleton]
      rcases List.mem_append.mp hentry with hold | hnewest
      · have hne : candidate.indexDocumentId ≠ entry.indexDocumentId := fun heq =>
          hnew (heq ▸ List.mem_map_of_mem hold)
        rw [if_neg hne, add_zero, h.score entry hold]
      · rw [List.mem_singleton.mp hnewest, if_pos rfl,
          fusedScore_eq_zero fun hmem => hnew ((h.mem _).mpr hmem)]

/-- The inner loop goes through where the ids are distinct, and fails where they are not. -/
theorem addCandidates_ok {seen : List String} {done : List RankedCandidate}
    (h : Fuses rankConstant done fused)
    (hnodup : (candidates.map RankedCandidate.indexDocumentId).Nodup)
    (hseen : ∀ candidate ∈ candidates, candidate.indexDocumentId ∉ seen) :
    ∃ fused', addCandidates rankConstant retrieverName seen fused candidates = .ok fused' ∧
      Fuses rankConstant (done ++ candidates) fused' := by
  induction candidates generalizing seen done fused with
  | nil => exact ⟨fused, rfl, by rwa [List.append_nil]⟩
  | cons candidate candidates ih =>
    rw [List.map_cons, List.nodup_cons] at hnodup
    rw [addCandidates, if_neg (hseen candidate List.mem_cons_self)]
    have hrest : ∀ other ∈ candidates,
        other.indexDocumentId ∉ candidate.indexDocumentId :: seen := by
      intro other hother
      rw [List.mem_cons, not_or]
      refine ⟨fun heq => hnodup.1 (heq ▸ List.mem_map_of_mem hother), ?_⟩
      exact hseen other (List.mem_cons_of_mem candidate hother)
    obtain ⟨fused', hrun, hfuses⟩ := ih (h.add candidate) hnodup.2 hrest
    refine ⟨fused', hrun, ?_⟩
    rwa [List.append_assoc, List.singleton_append] at hfuses

/-- The lists that the fusion accepts: under a name that is not blank, without duplicates. -/
def Accepted (retrievers : List (String × List RankedCandidate)) : Prop :=
  ∀ retriever ∈ retrievers, isBlank retriever.1 = false ∧
    (retriever.2.map RankedCandidate.indexDocumentId).Nodup

def allCandidates (retrievers : List (String × List RankedCandidate)) : List RankedCandidate :=
  retrievers.flatMap Prod.snd

theorem addRetrievers_ok {done : List RankedCandidate} (h : Fuses rankConstant done fused)
    (haccepted : Accepted retrievers) :
    ∃ fused', addRetrievers rankConstant fused retrievers = .ok fused' ∧
      Fuses rankConstant (done ++ allCandidates retrievers) fused' := by
  induction retrievers generalizing done fused with
  | nil => exact ⟨fused, rfl, by rwa [allCandidates, List.flatMap_nil, List.append_nil]⟩
  | cons retriever retrievers ih =>
    obtain ⟨retrieverName, candidates⟩ := retriever
    obtain ⟨hname, hnodup⟩ := haccepted _ List.mem_cons_self
    have hseen : ∀ candidate ∈ candidates, candidate.indexDocumentId ∉ [] :=
      fun _ _ => List.not_mem_nil
    obtain ⟨fused', hrun, hfuses⟩ := addCandidates_ok h hnodup hseen
    obtain ⟨fused'', hrun', hfuses'⟩ := ih hfuses fun other hother =>
      haccepted other (List.mem_cons_of_mem _ hother)
    refine ⟨fused'', ?_, ?_⟩
    · rw [addRetrievers, if_neg (by simpa using hname), hrun]
      exact hrun'
    · rwa [List.append_assoc] at hfuses'

/-! The ordering of all candidates. -/

theorem fuses_nil : Fuses rankConstant [] [] :=
  ⟨List.nodup_nil, fun _ => Iff.rfl, fun _ hentry => absurd hentry List.not_mem_nil⟩

theorem nodup_key (h : (fused.map FusedCandidate.indexDocumentId).Nodup) :
    (fused.map FusedCandidate.key).Nodup := by
  refine List.Nodup.of_map (fun k : ℚ ×ₗ String => (ofLex k).2) ?_
  rwa [List.map_map]

/-- What stands in the result, and where. -/
def scored (candidate : FusedCandidate) : String × ℚ :=
  (candidate.indexDocumentId, candidate.reciprocalRankFusionScore)

/-- The key of a document among all candidates. -/
def documentKey (rankConstant : ℤ) (retrievers : List (String × List RankedCandidate))
    (indexDocumentId : String) : ℚ ×ₗ String :=
  sortKey (fusedScore rankConstant (allCandidates retrievers) indexDocumentId) indexDocumentId

theorem fuses_scored (h : Fuses rankConstant candidates fused) : fused.map scored =
    (fused.map FusedCandidate.indexDocumentId).map fun indexDocumentId =>
      (indexDocumentId, fusedScore rankConstant candidates indexDocumentId) := by
  rw [List.map_map]
  refine List.map_congr_left fun entry hentry => ?_
  rw [scored, h.score entry hentry]
  rfl

/-- The fusion of accepted lists: all their documents in the order of their keys, cut. -/
theorem reciprocalRankFusion_ok (hconstant : 0 < rankConstant) (htop : 0 < topK)
    (h : Accepted retrievers) : ∃ fused, Fuses rankConstant (allCandidates retrievers) fused ∧
      reciprocalRankFusion retrievers rankConstant topK =
        .ok ((ranked FusedCandidate.key fused).take topK.toNat) := by
  obtain ⟨fused, hrun, hfuses⟩ := addRetrievers_ok fuses_nil h
  rw [List.nil_append] at hfuses
  refine ⟨fused, hfuses, ?_⟩
  rw [reciprocalRankFusion, if_neg hconstant.not_ge, if_neg htop.not_ge, hrun]
  rfl

/-- The ids in their order. -/
theorem ids_ranked (h : Fuses rankConstant (allCandidates retrievers) fused) :
    (ranked FusedCandidate.key fused).map FusedCandidate.indexDocumentId =
      ranked (documentKey rankConstant retrievers)
        (fused.map FusedCandidate.indexDocumentId) := by
  refine Transition.ranked_map fun entry hentry => ?_
  rw [documentKey, FusedCandidate.key, h.score entry hentry]

theorem documentKey_nodup (h : Fuses rankConstant candidates fused) :
    ((fused.map FusedCandidate.indexDocumentId).map
      (documentKey rankConstant retrievers)).Nodup := by
  refine List.Nodup.of_map (fun k : ℚ ×ₗ String => (ofLex k).2) ?_
  rw [List.map_map]
  exact (List.map_id _).symm ▸ h.nodup

/-- A document stands at its place, if the cut leaves it there. -/
theorem at_place (h : Fuses rankConstant (allCandidates retrievers) fused) {n : ℕ} :
    (((ranked FusedCandidate.key fused).take topK.toNat).map
        FusedCandidate.indexDocumentId)[n]? = some indexDocumentId ↔
      n < topK.toNat ∧ indexDocumentId ∈ fused.map FusedCandidate.indexDocumentId ∧
        place (documentKey rankConstant retrievers) (fused.map FusedCandidate.indexDocumentId)
          (documentKey rankConstant retrievers indexDocumentId) = n := by
  rw [List.map_take, ids_ranked h, List.getElem?_take]
  by_cases hn : n < topK.toNat
  · have hnodup : ((fused.map FusedCandidate.indexDocumentId).map
        (documentKey rankConstant retrievers)).Nodup := documentKey_nodup h
    have hstrict := Transition.ranked_strict hnodup
    rw [if_pos hn, Transition.getElem?_eq_some_iff_place hstrict,
      (Transition.ranked_perm _ _).mem_iff, Transition.place_ranked]
    exact ⟨fun hplace => ⟨hn, hplace⟩, fun hplace => hplace.2⟩
  · rw [if_neg hn]
    exact ⟨fun hnone => absurd hnone.symm (Option.some_ne_none _), fun hplace => absurd hplace.1 hn⟩

/-! Ranks that are positions. -/

variable {ids ids' : List String}

theorem map_rankedByPosition (ids : List String) :
    (rankedByPosition ids).map RankedCandidate.indexDocumentId = ids := by
  rw [rankedByPosition, List.map_map]
  exact List.zipIdx_map_fst 0 ids

theorem fusedScore_zipIdx (hnodup : ids.Nodup) (n : ℕ) :
    fusedScore rankConstant ((ids.zipIdx n).map fun (id, index) =>
        ⟨id, index + 1, Nat.succ_pos index⟩) indexDocumentId =
      if indexDocumentId ∈ ids then
        1 / (rankConstant + (n + ids.idxOf indexDocumentId + 1 : ℕ) : ℚ)
      else 0 := by
  induction ids generalizing n with
  | nil => rfl
  | cons id ids ih =>
    rw [List.nodup_cons] at hnodup
    rw [List.zipIdx_cons, List.map_cons, ← List.singleton_append, fusedScore_append,
      fusedScore_singleton, ih hnodup.2 (n + 1)]
    by_cases hid : id = indexDocumentId
    · subst hid
      rw [if_pos rfl, if_neg hnodup.1, if_pos List.mem_cons_self, List.idxOf_cons_self, add_zero]
      rfl
    · rw [if_neg hid, zero_add, List.idxOf_cons_ne ids hid]
      have hmem : indexDocumentId ∈ id :: ids ↔ indexDocumentId ∈ ids := by
        rw [List.mem_cons]
        exact ⟨fun h => h.resolve_left (Ne.symm hid), Or.inr⟩
      simp only [hmem, Nat.succ_eq_add_one, Nat.add_right_comm, Nat.add_assoc, Nat.add_comm 1]

theorem fusedScore_rankedByPosition (hnodup : ids.Nodup) (hmem : indexDocumentId ∈ ids) :
    fusedScore rankConstant (rankedByPosition ids) indexDocumentId =
      1 / (rankConstant + (ids.idxOf indexDocumentId + 1 : ℕ) : ℚ) := by
  rw [rankedByPosition, fusedScore_zipIdx hnodup 0, if_pos hmem, Nat.zero_add]

/-- One document has moved up, past some others. -/
def Promoted (indexDocumentId : String) (ids ids' : List String) : Prop :=
  ∃ before passed after, ids = before ++ (passed ++ indexDocumentId :: after) ∧
    ids' = before ++ indexDocumentId :: (passed ++ after)

theorem Promoted.perm (h : Promoted indexDocumentId ids ids') : ids.Perm ids' := by
  obtain ⟨before, passed, after, rfl, rfl⟩ := h
  exact List.Perm.append_left before List.perm_middle

theorem Promoted.idxOf_le (h : Promoted indexDocumentId ids ids') (hnodup : ids.Nodup) :
    ids'.idxOf indexDocumentId ≤ ids.idxOf indexDocumentId ∧
      ∀ other ∈ ids, other ≠ indexDocumentId → ids.idxOf other ≤ ids'.idxOf other := by
  obtain ⟨before, passed, after, rfl, rfl⟩ := h
  have hbefore : indexDocumentId ∉ before := fun hmem =>
    (List.nodup_append.mp hnodup).2.2 _ hmem _ (by simp) rfl
  constructor
  · rw [List.idxOf_append_of_notMem hbefore, List.idxOf_append_of_notMem hbefore,
      List.idxOf_cons_self]
    exact Nat.add_le_add_left (Nat.zero_le _) _
  · intro other hother hne
    by_cases hin : other ∈ before
    · rw [List.idxOf_append_of_mem hin, List.idxOf_append_of_mem hin]
    · rw [List.idxOf_append_of_notMem hin, List.idxOf_append_of_notMem hin,
        List.idxOf_cons_ne _ hne.symm]
      refine Nat.add_le_add_left ?_ _
      by_cases hpassed : other ∈ passed
      · rw [List.idxOf_append_of_mem hpassed, List.idxOf_append_of_mem hpassed]
        exact Nat.le_succ _
      · rw [List.idxOf_append_of_notMem hpassed, List.idxOf_append_of_notMem hpassed,
          List.idxOf_cons_ne _ hne.symm]
        exact le_of_eq (Nat.add_succ _ _)

theorem contribution_le (hconstant : 0 < rankConstant) {m n : ℕ} (h : m ≤ n) :
    1 / (rankConstant + (n + 1 : ℕ) : ℚ) ≤ 1 / (rankConstant + (m + 1 : ℕ) : ℚ) := by
  have hpositive : (0 : ℚ) < rankConstant := by exact_mod_cast hconstant
  have hrank : ((m + 1 : ℕ) : ℚ) ≤ ((n + 1 : ℕ) : ℚ) := by exact_mod_cast Nat.succ_le_succ h
  have hzero : (0 : ℚ) ≤ ((m + 1 : ℕ) : ℚ) := Nat.cast_nonneg _
  exact one_div_le_one_div_of_le (by linarith) (by linarith)

/-- The document gains, and no other does. -/
theorem Promoted.score_le (hconstant : 0 < rankConstant) (h : Promoted indexDocumentId ids ids')
    (hnodup : ids.Nodup) :
    fusedScore rankConstant (rankedByPosition ids) indexDocumentId ≤
        fusedScore rankConstant (rankedByPosition ids') indexDocumentId ∧
      ∀ other, other ≠ indexDocumentId → fusedScore rankConstant (rankedByPosition ids') other ≤
        fusedScore rankConstant (rankedByPosition ids) other := by
  have hnodup' : ids'.Nodup := h.perm.nodup_iff.mp hnodup
  have hmem : indexDocumentId ∈ ids := by
    obtain ⟨before, passed, after, rfl, -⟩ := h
    simp
  obtain ⟨hup, hothers⟩ := h.idxOf_le hnodup
  constructor
  · rw [fusedScore_rankedByPosition hnodup hmem,
      fusedScore_rankedByPosition hnodup' (h.perm.mem_iff.mp hmem)]
    exact contribution_le hconstant hup
  · intro other hne
    by_cases hother : other ∈ ids
    · rw [fusedScore_rankedByPosition hnodup hother,
        fusedScore_rankedByPosition hnodup' (h.perm.mem_iff.mp hother)]
      exact contribution_le hconstant (hothers other hother hne)
    · have hother' : other ∉ ids' := fun hin => hother (h.perm.mem_iff.mpr hin)
      have hzero : fusedScore rankConstant (rankedByPosition ids) other = 0 :=
        fusedScore_eq_zero (by rwa [map_rankedByPosition])
      have hzero' : fusedScore rankConstant (rankedByPosition ids') other = 0 :=
        fusedScore_eq_zero (by rwa [map_rankedByPosition])
      rw [hzero, hzero']

theorem sortKey_le {score score' : ℚ} (h : score ≤ score') (indexDocumentId : String) :
    sortKey score' indexDocumentId ≤ sortKey score indexDocumentId :=
  Prod.Lex.toLex_mono ⟨neg_le_neg h, le_refl indexDocumentId⟩

theorem fusedScore_promoted (hconstant : 0 < rankConstant)
    (h : Promoted indexDocumentId ids ids') (hnodup : ids.Nodup)
    (left right : List (String × List RankedCandidate)) (retrieverName : String) :
    documentKey rankConstant (left ++ (retrieverName, rankedByPosition ids') :: right)
        indexDocumentId ≤
      documentKey rankConstant (left ++ (retrieverName, rankedByPosition ids) :: right)
        indexDocumentId ∧
    ∀ other, other ≠ indexDocumentId →
      documentKey rankConstant (left ++ (retrieverName, rankedByPosition ids) :: right) other ≤
        documentKey rankConstant (left ++ (retrieverName, rankedByPosition ids') :: right)
          other := by
  have hsplit (some : List String) (id : String) : fusedScore rankConstant
      (allCandidates (left ++ (retrieverName, rankedByPosition some) :: right)) id =
      fusedScore rankConstant (allCandidates left) id +
        (fusedScore rankConstant (rankedByPosition some) id +
          fusedScore rankConstant (allCandidates right) id) := by
    rw [allCandidates, List.flatMap_append, List.flatMap_cons, fusedScore_append,
      fusedScore_append]
    rfl
  obtain ⟨hgains, hothers⟩ := h.score_le hconstant hnodup
  constructor
  · refine sortKey_le ?_ indexDocumentId
    rw [hsplit, hsplit]
    exact add_le_add_right (add_le_add_left hgains _) _
  · intro other hne
    refine sortKey_le ?_ other
    rw [hsplit, hsplit]
    exact add_le_add_right (add_le_add_left (hothers other hne) _) _

theorem Accepted.promoted {left right : List (String × List RankedCandidate)}
    (h : Promoted indexDocumentId ids ids')
    (haccepted : Accepted (left ++ (retrieverName, rankedByPosition ids) :: right)) :
    ids.Nodup ∧ Accepted (left ++ (retrieverName, rankedByPosition ids') :: right) := by
  obtain ⟨hname, hnodup⟩ := haccepted _ (List.mem_append_right left List.mem_cons_self)
  rw [map_rankedByPosition] at hnodup
  refine ⟨hnodup, fun retriever hmem => ?_⟩
  rcases List.mem_append.mp hmem with hleft | hmem
  · exact haccepted retriever (List.mem_append_left _ hleft)
  · rcases List.mem_cons.mp hmem with rfl | hright
    · refine ⟨hname, ?_⟩
      rw [map_rankedByPosition]
      exact h.perm.nodup_iff.mp hnodup
    · exact haccepted retriever (List.mem_append_right left (List.mem_cons_of_mem _ hright))

theorem Fuses.ids_perm {candidates' : List RankedCandidate}
    (h : Fuses rankConstant candidates fused) (h' : Fuses rankConstant candidates' fused')
    (hids : ∀ id, id ∈ candidates.map RankedCandidate.indexDocumentId ↔
      id ∈ candidates'.map RankedCandidate.indexDocumentId) :
    (fused.map FusedCandidate.indexDocumentId).Perm
      (fused'.map FusedCandidate.indexDocumentId) := by
  rw [List.perm_ext_iff_of_nodup h.nodup h'.nodup]
  intro id
  rw [h.mem, h'.mem, hids]

/-- `before` comes first in the order of descending scores, and of ids where they are equal. -/
def FusedCandidate.Before (before after : FusedCandidate) : Prop :=
  after.reciprocalRankFusionScore < before.reciprocalRankFusionScore ∨
    before.reciprocalRankFusionScore = after.reciprocalRankFusionScore ∧
      before.indexDocumentId < after.indexDocumentId

theorem key_lt (before after : FusedCandidate) : before.key < after.key ↔ before.Before after := by
  rw [FusedCandidate.key, FusedCandidate.key, sortKey, sortKey, Prod.Lex.toLex_lt_toLex,
    neg_lt_neg_iff, neg_inj]
  rfl

theorem scored_ranked (h : Fuses rankConstant (allCandidates retrievers) fused) :
    ((ranked FusedCandidate.key fused).take topK.toNat).map scored =
      ((ranked (documentKey rankConstant retrievers)
        (fused.map FusedCandidate.indexDocumentId)).take topK.toNat).map fun id =>
          (id, fusedScore rankConstant (allCandidates retrievers) id) := by
  rw [List.map_take, List.map_take, ← ids_ranked h, List.map_map]
  congr 1
  refine List.map_congr_left fun entry hentry => ?_
  rw [scored, h.score entry ((Transition.ranked_perm _ _).mem_iff.mp hentry)]
  rfl

/-- The fusion is the cut of one canonical order, whatever the order of the retrievers, and a
document that moves up in one list does not move down in the result. -/
theorem rank_fusion_canonical (hconstant : 0 < rankConstant) (htop : 0 < topK) :
    (∀ retrievers, Accepted retrievers → ∃ ordering result : List FusedCandidate,
      reciprocalRankFusion retrievers rankConstant topK = .ok result ∧
      result = ordering.take topK.toNat ∧
      (ordering.map FusedCandidate.indexDocumentId).Nodup ∧
      (result.map FusedCandidate.indexDocumentId).Nodup ∧
      ordering.Pairwise FusedCandidate.Before ∧
      (∀ indexDocumentId, indexDocumentId ∈ ordering.map FusedCandidate.indexDocumentId ↔
        indexDocumentId ∈ (allCandidates retrievers).map RankedCandidate.indexDocumentId) ∧
      ∀ candidate ∈ ordering, candidate.reciprocalRankFusionScore =
        fusedScore rankConstant (allCandidates retrievers) candidate.indexDocumentId) ∧
    (∀ retrievers retrievers' : List (String × List RankedCandidate), retrievers.Perm retrievers' → Accepted retrievers →
      ∃ result result', reciprocalRankFusion retrievers rankConstant topK = .ok result ∧
        reciprocalRankFusion retrievers' rankConstant topK = .ok result' ∧
        result.map scored = result'.map scored) ∧
    ∀ left right retrieverName indexDocumentId ids ids', Promoted indexDocumentId ids ids' →
      Accepted (left ++ (retrieverName, rankedByPosition ids) :: right) →
      ∃ result result',
        reciprocalRankFusion (left ++ (retrieverName, rankedByPosition ids) :: right)
          rankConstant topK = .ok result ∧
        reciprocalRankFusion (left ++ (retrieverName, rankedByPosition ids') :: right)
          rankConstant topK = .ok result' ∧
        ∀ n : ℕ, (result.map FusedCandidate.indexDocumentId)[n]? = some indexDocumentId →
          ∃ n' ≤ n, (result'.map FusedCandidate.indexDocumentId)[n']? = some indexDocumentId := by
  refine ⟨fun retrievers haccepted => ?_, fun retrievers retrievers' hperm haccepted => ?_,
    fun left right retrieverName indexDocumentId ids ids' hpromoted haccepted => ?_⟩
  · obtain ⟨fused, hfuses, hrun⟩ := reciprocalRankFusion_ok hconstant htop haccepted
    have hordering := Transition.ranked_perm FusedCandidate.key fused
    have hnodup := (hordering.map FusedCandidate.indexDocumentId).nodup_iff.mpr hfuses.nodup
    refine ⟨_, _, hrun, rfl, hnodup, ?_, ?_, fun id => ?_, fun candidate hmem => ?_⟩
    · rw [List.map_take]
      exact hnodup.sublist (List.take_sublist _ _)
    · exact (Transition.ranked_strict (nodup_key hfuses.nodup)).imp fun h => (key_lt _ _).mp h
    · rw [(hordering.map FusedCandidate.indexDocumentId).mem_iff, hfuses.mem]
    · exact hfuses.score candidate (hordering.mem_iff.mp hmem)
  · have hcandidates : (allCandidates retrievers).Perm (allCandidates retrievers') :=
      hperm.flatMap_right Prod.snd
    obtain ⟨fused, hfuses, hrun⟩ := reciprocalRankFusion_ok hconstant htop haccepted
    have haccepted' : Accepted retrievers' := fun retriever hmem =>
      haccepted retriever (hperm.mem_iff.mpr hmem)
    obtain ⟨fused', hfuses', hrun'⟩ := reciprocalRankFusion_ok hconstant htop haccepted'
    refine ⟨_, _, hrun, hrun', ?_⟩
    have hscore : fusedScore rankConstant (allCandidates retrievers) =
        fusedScore rankConstant (allCandidates retrievers') :=
      funext fun id => fusedScore_perm hcandidates
    have hkey : documentKey rankConstant retrievers = documentKey rankConstant retrievers' := by
      funext id
      rw [documentKey, documentKey, hscore]
    have hids := hfuses.ids_perm hfuses' fun id => (hcandidates.map _).mem_iff
    have hnodup : ((fused.map FusedCandidate.indexDocumentId).map
        (documentKey rankConstant retrievers)).Nodup := documentKey_nodup hfuses
    rw [scored_ranked hfuses, scored_ranked hfuses', Transition.ranked_eq_of_perm hnodup hids, hkey,
      hscore]
  · obtain ⟨hnodup, haccepted'⟩ := haccepted.promoted hpromoted
    obtain ⟨fused, hfuses, hrun⟩ := reciprocalRankFusion_ok hconstant htop haccepted
    obtain ⟨fused', hfuses', hrun'⟩ := reciprocalRankFusion_ok hconstant htop haccepted'
    refine ⟨_, _, hrun, hrun', fun n hplace => ?_⟩
    obtain ⟨hn, hmem, rfl⟩ := (at_place hfuses).mp hplace
    obtain ⟨hkey, hothers⟩ :=
      fusedScore_promoted hconstant hpromoted hnodup left right retrieverName
    have hids := hfuses.ids_perm hfuses' fun id => by
      simp only [allCandidates, List.flatMap_append, List.flatMap_cons, List.map_append,
        map_rankedByPosition, List.mem_append, hpromoted.perm.mem_iff]
    have hle := Transition.place_le hkey (l := fused.map FusedCandidate.indexDocumentId)
      fun other _ hne => hothers other hne
    rw [Transition.place_perm hids] at hle
    exact ⟨_, hle, (at_place hfuses').mpr ⟨hle.trans_lt hn, hids.mem_iff.mp hmem, rfl⟩⟩

/-- Two retrievers, the second of which moves "B" up. -/
theorem rank_fusion_canonical_sixty :
    ∃ result result',
      reciprocalRankFusion ([("semantic_vector", rankedByPosition ["A", "B"])] ++
        ("lexical_keyword", rankedByPosition ["A", "D", "B"]) :: []) 60 20 = .ok result ∧
      reciprocalRankFusion ([("semantic_vector", rankedByPosition ["A", "B"])] ++
        ("lexical_keyword", rankedByPosition ["B", "A", "D"]) :: []) 60 20 = .ok result' ∧
      ∀ n : ℕ, (result.map FusedCandidate.indexDocumentId)[n]? = some "B" →
        ∃ n' ≤ n, (result'.map FusedCandidate.indexDocumentId)[n']? = some "B" := by
  refine (rank_fusion_canonical (by decide) (by decide)).2.2 _ _ _ _ _ _
    ⟨[], ["A", "D"], [], rfl, rfl⟩ ?_
  intro retriever hmem
  simp only [List.cons_append, List.nil_append, List.mem_cons, List.not_mem_nil, or_false] at hmem
  rcases hmem with rfl | rfl <;> exact ⟨by decide +kernel, by decide⟩

/-! The two retrievers of the search. -/

structure RetrievedEvidence where
  indexDocumentId : String
  content : String
  contentSha256 : String
  deriving DecidableEq, Repr

structure FusedEvidence where
  evidence : RetrievedEvidence
  reciprocalRankFusionScore : ℚ
  contributingRetrievers : List String
  deriving DecidableEq, Repr

abbrev EvidenceTable := Transition.Table RetrievedEvidence String RetrievedEvidence.indexDocumentId

def differentContentMessage (retrieverName indexDocumentId : String) : String :=
  "Retriever '" ++ retrieverName ++ "' returned index document '" ++ indexDocumentId ++
    "' with different content."

def mergeInto (retrieverName : String) :
    EvidenceTable → List RetrievedEvidence → Except String EvidenceTable
  | merged, [] => .ok merged
  | merged, evidence :: evidenceList =>
    if (merged.find? evidence.indexDocumentId).any fun existing =>
        existing.contentSha256.toLower ≠ evidence.contentSha256.toLower then
      .error (differentContentMessage retrieverName evidence.indexDocumentId)
    else mergeInto retrieverName (merged.put evidence) evidenceList

def mergeEvidenceByIndexDocumentId :
    EvidenceTable → List (String × List RetrievedEvidence) → Except String EvidenceTable
  | merged, [] => .ok merged
  | merged, (retrieverName, evidenceList) :: retrievers =>
    mergeInto retrieverName merged evidenceList >>= fun merged =>
      mergeEvidenceByIndexDocumentId merged retrievers

def toRankedCandidates (evidenceList : List RetrievedEvidence) : List RankedCandidate :=
  rankedByPosition (evidenceList.map RetrievedEvidence.indexDocumentId)

/-- The lookup in the merged dictionary; a missing key raises. -/
def fusedEvidence (merged : EvidenceTable) (candidate : FusedCandidate) :
    Except String FusedEvidence :=
  match merged.find? candidate.indexDocumentId with
  | none => .error candidate.indexDocumentId
  | some evidence =>
    .ok ⟨evidence, candidate.reciprocalRankFusionScore, candidate.contributingRetrievers⟩

def rankedResponses (vectorEvidence keywordEvidence : List RetrievedEvidence) :
    List (String × List RankedCandidate) :=
  [("semantic_vector", toRankedCandidates vectorEvidence),
    ("lexical_keyword", toRankedCandidates keywordEvidence)]

def fuseRetrievalResponses (vectorEvidence keywordEvidence : List RetrievedEvidence) (topK : ℤ) :
    Except String (List FusedEvidence) := do
  let merged ← mergeEvidenceByIndexDocumentId Transition.Table.empty
    [("semantic_vector", vectorEvidence), ("lexical_keyword", keywordEvidence)]
  let fusedCandidates ←
    reciprocalRankFusion (rankedResponses vectorEvidence keywordEvidence) 60 topK
  fusedCandidates.mapM (fusedEvidence merged)

variable {merged merged' : EvidenceTable} {evidenceList : List RetrievedEvidence}

/-- Every id that was merged has one of the records with that id. -/
structure Merges (merged : EvidenceTable) (evidenceList : List RetrievedEvidence) : Prop where
  found : ∀ evidence ∈ evidenceList, (merged.find? evidence.indexDocumentId).isSome
  known : ∀ indexDocumentId evidence, merged.find? indexDocumentId = some evidence →
    evidence ∈ evidenceList

theorem Merges.put (h : Merges merged evidenceList) (evidence : RetrievedEvidence) :
    Merges (merged.put evidence) (evidenceList ++ [evidence]) := by
  constructor
  · intro other hother
    rw [Transition.Table.find?_put]
    split_ifs with hid
    · rfl
    · rcases List.mem_append.mp hother with hold | hnew
      · exact h.found other hold
      · exact absurd (congrArg RetrievedEvidence.indexDocumentId (List.mem_singleton.mp hnew).symm)
          hid
  · intro id other hfind
    rw [Transition.Table.find?_put] at hfind
    split_ifs at hfind with hid
    · rw [← Option.some.inj hfind]
      exact List.mem_append_right _ (List.mem_singleton_self evidence)
    · exact List.mem_append_left _ (h.known id other hfind)

theorem mergeInto_merges {done : List RetrievedEvidence} (h : Merges merged done)
    (hrun : mergeInto retrieverName merged evidenceList = .ok merged') :
    Merges merged' (done ++ evidenceList) := by
  induction evidenceList generalizing merged done with
  | nil =>
    cases hrun
    rwa [List.append_nil]
  | cons evidence evidenceList ih =>
    rw [mergeInto] at hrun
    split_ifs at hrun
    have hmerges := ih (h.put evidence) hrun
    rwa [List.append_assoc, List.singleton_append] at hmerges

theorem mergeEvidence_merges {done : List RetrievedEvidence} (h : Merges merged done)
    {evidenceByRetriever : List (String × List RetrievedEvidence)}
    (hrun : mergeEvidenceByIndexDocumentId merged evidenceByRetriever = .ok merged') :
    Merges merged' (done ++ evidenceByRetriever.flatMap Prod.snd) := by
  induction evidenceByRetriever generalizing merged done with
  | nil =>
    cases hrun
    rwa [List.flatMap_nil, List.append_nil]
  | cons retriever evidenceByRetriever ih =>
    rw [mergeEvidenceByIndexDocumentId] at hrun
    cases hmerge : mergeInto retriever.1 merged retriever.2 with
    | error message => rw [hmerge] at hrun; cases hrun
    | ok next =>
      rw [hmerge] at hrun
      have hmerges := ih (mergeInto_merges h hmerge) hrun
      rwa [List.append_assoc] at hmerges

theorem mapM_fusedEvidence (h : ∀ candidate ∈ fused,
    (merged.find? candidate.indexDocumentId).isSome) :
    ∃ result, fused.mapM (fusedEvidence merged) = .ok result ∧
      result.map (fun entry => (entry.evidence.indexDocumentId, entry.reciprocalRankFusionScore)) =
        fused.map scored ∧
      ∀ entry ∈ result, ∃ id, merged.find? id = some entry.evidence := by
  induction fused with
  | nil => exact ⟨[], rfl, rfl, fun _ hmem => absurd hmem List.not_mem_nil⟩
  | cons candidate fused ih =>
    obtain ⟨evidence, hfind⟩ := Option.isSome_iff_exists.mp (h candidate List.mem_cons_self)
    obtain ⟨result, hrun, hmap, hknown⟩ :=
      ih fun other hmem => h other (List.mem_cons_of_mem candidate hmem)
    have hid := ((Transition.Table.find?_eq_some _ _).mp hfind).2
    let head : FusedEvidence :=
      ⟨evidence, candidate.reciprocalRankFusionScore, candidate.contributingRetrievers⟩
    have hhead : fusedEvidence merged candidate = .ok head := by
      rw [fusedEvidence, hfind]
    refine ⟨head :: result, ?_, ?_, fun entry hmem => ?_⟩
    · rw [List.mapM_cons, hhead, hrun]
      rfl
    · rw [List.map_cons, List.map_cons, hmap, scored, hid]
    · rcases List.mem_cons.mp hmem with rfl | hmem
      · exact ⟨_, hfind⟩
      · exact hknown entry hmem

theorem map_rankedResponses (vectorEvidence keywordEvidence : List RetrievedEvidence) :
    (allCandidates (rankedResponses vectorEvidence keywordEvidence)).map
        RankedCandidate.indexDocumentId =
      (vectorEvidence ++ keywordEvidence).map RetrievedEvidence.indexDocumentId := by
  rw [allCandidates, rankedResponses, List.flatMap_cons, List.flatMap_singleton, List.map_append,
    toRankedCandidates, toRankedCandidates, map_rankedByPosition, map_rankedByPosition,
    List.map_append]

/-- The fused responses are the fusion of the ids at their positions, each with a retrieved
record. -/
theorem fuseRetrievalResponses_ok {vectorEvidence keywordEvidence : List RetrievedEvidence}
    (htop : 0 < topK)
    (hvector : (vectorEvidence.map RetrievedEvidence.indexDocumentId).Nodup)
    (hkeyword : (keywordEvidence.map RetrievedEvidence.indexDocumentId).Nodup)
    (hmerge : mergeEvidenceByIndexDocumentId Transition.Table.empty
      [("semantic_vector", vectorEvidence), ("lexical_keyword", keywordEvidence)] = .ok merged) :
    ∃ fused result, reciprocalRankFusion (rankedResponses vectorEvidence keywordEvidence) 60 topK =
        .ok fused ∧
      fuseRetrievalResponses vectorEvidence keywordEvidence topK = .ok result ∧
      result.map (fun entry => (entry.evidence.indexDocumentId, entry.reciprocalRankFusionScore)) =
        fused.map scored ∧
      ∀ entry ∈ result, entry.evidence ∈ vectorEvidence ++ keywordEvidence := by
  have haccepted : Accepted (rankedResponses vectorEvidence keywordEvidence) := by
    intro retriever hmem
    simp only [rankedResponses, List.mem_cons, List.not_mem_nil, or_false] at hmem
    have hnames : isBlank "semantic_vector" = false ∧ isBlank "lexical_keyword" = false := by
      decide +kernel
    rcases hmem with rfl | rfl
    · exact ⟨hnames.1, by rwa [toRankedCandidates, map_rankedByPosition]⟩
    · exact ⟨hnames.2, by rwa [toRankedCandidates, map_rankedByPosition]⟩
  have hempty : Merges Transition.Table.empty [] :=
    ⟨fun _ hmem => absurd hmem List.not_mem_nil, fun _ _ hfind => by cases hfind⟩
  have hmerges : Merges merged (vectorEvidence ++ keywordEvidence) := by
    have hall := mergeEvidence_merges hempty hmerge
    simpa using hall
  have hsixty : (0 : ℤ) < 60 := by decide
  obtain ⟨fused, hfuses, hrun⟩ := reciprocalRankFusion_ok hsixty htop haccepted
  have hfound : ∀ candidate ∈ (ranked FusedCandidate.key fused).take topK.toNat,
      (merged.find? candidate.indexDocumentId).isSome := by
    intro candidate hmem
    have hin := (Transition.ranked_perm _ _).mem_iff.mp (List.mem_of_mem_take hmem)
    have hid := (hfuses.mem _).mp (List.mem_map_of_mem hin)
    rw [map_rankedResponses] at hid
    obtain ⟨evidence, hevidence, heq⟩ := List.mem_map.mp hid
    rw [← heq]
    exact hmerges.found evidence hevidence
  obtain ⟨result, hresult, hmap, hknown⟩ := mapM_fusedEvidence hfound
  refine ⟨_, result, hrun, ?_, hmap, fun entry hentry => ?_⟩
  · rw [fuseRetrievalResponses, hmerge, hrun]
    exact hresult
  · obtain ⟨id, hfind⟩ := hknown entry hentry
    exact hmerges.known id _ hfind

end CSO.KnowledgeRag
