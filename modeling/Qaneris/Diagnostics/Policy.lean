import Mathlib.Data.List.Sort
import Qaneris.Diagnostics.Models
import Qaneris.Infra.Text

/-!
# Which evidence questions are asked

`select_questions` takes the questions of a decision by priority, refuses native query text, puts aside
what was asked before, and keeps as many as the budget and the round allow.

* `selectQuestions_length` — it keeps no more than that
-/

namespace Diagnostics

/-! ## Native query text -/

def nativeWords : List String :=
  ["select", "insert", "update", "delete", "drop", "alter", "create", "from", "where", "join",
   "hgetall", "smembers", "lrange", "mget", "db.", "datasource_id", "table", "field"]

/-- `[A-Za-z_]` when case is ignored. -/
def isNameStart (c : Char) : Bool :=
  Infra.isAsciiLower c || Infra.isAsciiUpper c || c == '_' ||
    c.toNat ∈ [0x130, 0x131, 0x17F, 0x212A]

/-- `\b[A-Za-z_]\w*\.[A-Za-z_]\w*\b` at this place. -/
def qualifiedNameAt (before : Option Char) (text : List Char) : Bool :=
  Infra.wordBoundary before text.head? && text.head?.any isNameStart &&
    match text.dropWhile Infra.isWord with
    | '.' :: rest => rest.head?.any isNameStart
    | _ => false

def nativeAt (before : Option Char) (text : List Char) : Bool :=
  nativeWords.any (fun word => Infra.wordAt word.toList before text) ||
    (Infra.dropWord "$match".toList text).isSome || (Infra.dropWord "$group".toList text).isSome ||
    qualifiedNameAt before text

/-- `_NATIVE.search(text)` -/
def nativeSearch (text : String) : Bool :=
  Infra.searchFrom nativeAt none text.toList

/-! ## The policy -/

/-- `text.split()` -/
def words (text : List Char) : List (List Char) :=
  (text.splitOnP Infra.isSpace).filter fun word => word ≠ []

/-- `" ".join(question.strip().casefold().split())`; `fold` is the folding of cases. -/
def questionKey (fold : List Char → List Char) (question : String) : List Char :=
  [' '].intercalate (words (fold (Infra.strip question.toList)))

def validateQuestion (question : EvidenceQuestion) : Except Runtime.Failure Unit :=
  if nativeSearch question.question || nativeSearch question.purpose then
    .error (.value "diagnostic question contains native query material")
  else if Infra.isBlank question.question || Infra.isBlank question.purpose then
    .error (.value "empty diagnostic question")
  else .ok ()

/-- What has been selected so far, what was put aside, and the keys that were seen. -/
structure Selection where
  selected : List EvidenceQuestion := []
  duplicates : List EvidenceQuestion := []
  seen : List (List Char)

/-- One question of the loop; `bound` is how many the round may have. -/
def Selection.take (fold : List Char → List Char) (bound : Int) (s : Selection)
    (question : EvidenceQuestion) : Except Runtime.Failure Selection := do
  validateQuestion question
  let key := questionKey fold question.question
  if key ∈ s.seen then return { s with duplicates := s.duplicates ++ [question] }
  else if s.selected.length < bound then
    return { s with selected := s.selected ++ [question], seen := key :: s.seen }
  else return s

def questionsOf : DiagnosticDecision → List EvidenceQuestion
  | .query questions _ _ => questions.insertionSort fun a b => a.priority ≤ b.priority
  | .clarify _ _ | .stop _ => []

def selectQuestions (fold : List Char → List Char) (decision : DiagnosticDecision)
    (seen : List (List Char)) (remaining : Int) (budget : DiagnosticBudget) :
    Except Runtime.Failure Selection :=
  (questionsOf decision).foldlM
    (Selection.take fold (min remaining budget.maxQuestionsPerRound)) { seen }

theorem Selection.take_length {fold : List Char → List Char} {bound : Int} {s s' : Selection}
    {question : EvidenceQuestion} (h : s.take fold bound question = .ok s')
    (hs : s.selected.length ≤ max bound 0) : s'.selected.length ≤ max bound 0 := by
  unfold Selection.take at h
  cases hv : validateQuestion question with
  | error e => simp [hv, bind, Except.bind] at h
  | ok u =>
    simp only [hv, bind, Except.bind] at h
    split at h
    · obtain rfl := Except.ok.inj h
      exact hs
    · split at h
      · next hlt =>
        obtain rfl := Except.ok.inj h
        simp only [List.length_append, List.length_cons, List.length_nil]
        omega
      · obtain rfl := Except.ok.inj h
        exact hs

/-- No more questions are selected than the remaining budget and the round allow. -/
theorem selectQuestions_length {fold : List Char → List Char} {decision : DiagnosticDecision}
    {seen : List (List Char)} {remaining : Int} {budget : DiagnosticBudget} {s : Selection}
    (h : selectQuestions fold decision seen remaining budget = .ok s) :
    s.selected.length ≤ max (min remaining budget.maxQuestionsPerRound) 0 := by
  unfold selectQuestions at h
  generalize hb : min remaining budget.maxQuestionsPerRound = bound at h
  have hrun : ∀ (questions : List EvidenceQuestion) (s₀ s₁ : Selection),
      questions.foldlM (Selection.take fold bound) s₀ = .ok s₁ →
        s₀.selected.length ≤ max bound 0 → s₁.selected.length ≤ max bound 0 := by
    intro questions
    induction questions with
    | nil =>
      intro s₀ s₁ h₁ h₀
      obtain rfl := Except.ok.inj h₁
      exact h₀
    | cons question questions ih =>
      intro s₀ s₁ h₁ h₀
      rw [List.foldlM_cons] at h₁
      cases ht : s₀.take fold bound question with
      | error e => simp [ht, bind, Except.bind] at h₁
      | ok s' =>
        simp only [ht, bind, Except.bind] at h₁
        exact ih s' s₁ h₁ (Selection.take_length ht h₀)
  exact hrun _ _ _ h (by simp)

end Diagnostics
