import Qaneris.Runtime.Orchestrator

/-!
# What it means to remember the user's answers

`recorded` are the answers that a run has been given. An attempt remembers them when each is part of
the question that it hands to the resolver. `LatestSaysAll` says when the question that an attempt
builds, of the original one and the latest answer, has them all.
-/

namespace Runtime

/-- `part in text` -/
def Contains (text part : String) : Prop := part.toList <:+: text.toList

instance (text part : String) : Decidable (Contains text part) :=
  inferInstanceAs (Decidable (_ <:+: _))

/-- The answers of the user to the clarifications of a run, as they are read from the store. -/
def recorded (self : Orchestrator) (conversationId runId : String) (w : World) : List String :=
  Orchestrator.clarificationsOf runId (w.conversations.messagesOf self.safeValue conversationId)

/-- Every answer is part of the question. -/
def Remembered (question : String) (answers : List String) : Prop :=
  ∀ answer ∈ answers, Contains question answer

/-- Every answer before the latest is part of the text made of the original question and the latest
answer. -/
def LatestSaysAll (original : String) (answers : List String) : Prop :=
  ∀ latest ∈ answers.getLast?, ∀ earlier ∈ answers.dropLast,
    Contains (original ++ "。用户澄清：" ++ latest) earlier

instance (original : String) (answers : List String) : Decidable (LatestSaysAll original answers) :=
  inferInstanceAs (Decidable (∀ latest ∈ answers.getLast?, _))

end Runtime
