import CSO.KnowledgeRag.Coverage

/-! Which sections have chunks within the budget of tokens. -/
namespace CSO.KnowledgeRag

variable {τ : Type} {encoding : Encoding τ} {config : ChunkingConfig}

/-- A content that is emitted as it stands breaks the budget. -/
def Overlong (encoding : Encoding τ) (config : ChunkingConfig) (content : Text) : Prop :=
  content ≠ [] ∧ config.targetTokenCount < tokenCount encoding content

instance (content : Text) : Decidable (Overlong encoding config content) :=
  inferInstanceAs (Decidable (_ ∧ _))

/-- The unit and what is carried over are too long together, and the shortened overlap, joined and
encoded anew, is too long with the unit as well. -/
def Overruns (encoding : Encoding τ) (config : ChunkingConfig) (current unit : Text) : Prop :=
  let carriedOver := carried encoding config current unit
  config.targetTokenCount < tokenCount encoding (joinText carriedOver unit) ∧
    Overlong encoding config
      (joinText (tailByTokens encoding carriedOver (allowedOverlap encoding config unit)) unit)

instance (current unit : Text) : Decidable (Overruns encoding config current unit) :=
  inferInstanceAs (Decidable (_ ∧ _))

/-- The next unit is joined to the content, so that the content is not emitted. -/
def JoinsOn (encoding : Encoding τ) (config : ChunkingConfig) (content : Text) : List Text → Prop
  | [] => False
  | unit :: _ => ¬Full encoding config content unit

instance (content : Text) : (units : List Text) → Decidable (JoinsOn encoding config content units)
  | [] => inferInstanceAs (Decidable False)
  | unit :: _ => inferInstanceAs (Decidable (¬Full encoding config content unit))

/-- No pass overruns the budget, unless the next unit takes what it leaves back within it. -/
def Fits (encoding : Encoding τ) (config : ChunkingConfig) (current : Text) : List Text → Prop
  | [] => True
  | unit :: units =>
    (Overruns encoding config current unit →
      JoinsOn encoding config (nextContent encoding config current unit) units) ∧
      Fits encoding config (nextContent encoding config current unit) units

instance decidableFits (current : Text) : (units : List Text) →
    Decidable (Fits encoding config current units)
  | [] => inferInstanceAs (Decidable True)
  | unit :: units =>
    have := decidableFits (nextContent encoding config current unit) units
    inferInstanceAs (Decidable ((Overruns encoding config current unit →
      JoinsOn encoding config (nextContent encoding config current unit) units) ∧ _))

/-- A pass leaves too long a content only by the branch that shortens the overlap. -/
theorem overlong_nextContent {current unit : Text} :
    Overlong encoding config (nextContent encoding config current unit) ↔
      Overruns encoding config current unit := by
  rw [nextContent, candidate, Overruns]
  by_cases hlong : config.targetTokenCount <
      tokenCount encoding (joinText (carried encoding config current unit) unit)
  · rw [if_pos hlong]
    exact (and_iff_right hlong).symm
  · rw [if_neg hlong]
    constructor
    · intro hover
      exact absurd hover.2 hlong
    · intro hover
      exact absurd hover.1 hlong

/-- The induction is on the units; what the head of the rest decides is whether the running content
is emitted. -/
theorem emitted_within (current : Text) (units : List Text) :
    (∀ content ∈ emitted encoding config current units,
        tokenCount encoding content ≤ config.targetTokenCount) ↔
      (Overlong encoding config current → JoinsOn encoding config current units) ∧
        Fits encoding config current units := by
  induction units generalizing current with
  | nil =>
    rw [emitted, Fits, JoinsOn, and_true]
    by_cases hempty : current = []
    · rw [if_pos hempty]
      exact ⟨fun _ hover => hover.1 hempty, fun _ => List.forall_mem_nil _⟩
    · rw [if_neg hempty, List.forall_mem_singleton, Overlong]
      constructor
      · intro hcount hover
        omega
      · intro hover
        by_contra hcount
        exact hover ⟨hempty, by omega⟩
  | cons unit units ih =>
    have hhead : (∀ content ∈ if Full encoding config current unit then [current] else [],
        tokenCount encoding content ≤ config.targetTokenCount) ↔
        (Overlong encoding config current → ¬Full encoding config current unit) := by
      by_cases hfull : Full encoding config current unit
      · rw [if_pos hfull, List.forall_mem_singleton, Overlong]
        constructor
        · intro hcount hover
          omega
        · intro hover
          by_contra hcount
          exact hover ⟨hfull.1, by omega⟩ hfull
      · rw [if_neg hfull]
        exact ⟨fun _ _ => hfull, fun _ => List.forall_mem_nil _⟩
    rw [emitted, List.forall_mem_append, hhead, ih, overlong_nextContent, Fits, JoinsOn]

/-- The chunks keep to the budget where a join costs no token of its own. -/
theorem fits_of_joins {units : List Text} (current : Text)
    (hunits : ∀ unit ∈ units, tokenCount encoding unit ≤ config.targetTokenCount)
    (hjoins : ∀ text unit count, tokenCount encoding (joinText (tailByTokens encoding text count) unit) ≤
      count + tokenCount encoding unit) :
    Fits encoding config current units := by
  induction units generalizing current with
  | nil => trivial
  | cons unit units ih =>
    constructor
    · intro hover
      have hunit := hunits unit List.mem_cons_self
      have hjoin := hjoins (carried encoding config current unit) unit
        (allowedOverlap encoding config unit)
      have hlong := hover.2.2
      rw [allowedOverlap] at hjoin hlong
      omega
    · exact ih _ fun unit' hunit' => hunits unit' (List.mem_cons_of_mem unit hunit')

def sentencePair : String := "a. b."

def threeTokens : ChunkingConfig := ⟨3, 1, "v1", by decide, budget_strategy⟩

end CSO.KnowledgeRag
