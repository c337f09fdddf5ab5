import Mathlib.Data.List.Sort
import Qaneris.Conversation.Models
import Qaneris.Infra.Program

/-!
# The conversation store

`SQLiteConversationRepository`. Every operation is one transaction. A message is read back through its
model, which makes its content safe again, so `messages` is given the function that does that.

* `Store.putMemory_ok` — a write of the memory meets the revision it expects, and touches no other row
-/

namespace Conversations

structure MemoryRow where
  conversationId : String
  memory : SemanticMemory
  revision : Nat := 0
  deriving DecidableEq, Repr

/-- What the store raises. -/
inductive Failure where
  | keyError (key : String)
  | conflict
  deriving DecidableEq, Repr

structure Store where
  conversations : List Conversation := []
  messages : List Message := []
  memories : List MemoryRow := []
  deriving DecidableEq, Repr

namespace Store

def create (s : Store) (conversation : Conversation) (now : Instant) : Store :=
  { s with
    conversations := s.conversations ++ [conversation]
    memories := s.memories ++ [{
      conversationId := conversation.conversationId, memory := { updatedAt := now } }] }

def get (s : Store) (conversationId : String) : Except Failure Conversation :=
  match s.conversations.find? fun c => c.conversationId = conversationId with
  | some conversation => .ok conversation
  | none => .error (.keyError conversationId)

/-- `INSERT OR IGNORE INTO conversation_message` -/
def addMessage (s : Store) (message : Message) : Store :=
  if s.messages.any fun m => m.messageId = message.messageId then s
  else { s with messages := s.messages ++ [message] }

/-- `ORDER BY created_at, id` -/
def MessageBefore (a b : Message) : Prop :=
  a.createdAt < b.createdAt ∨ a.createdAt = b.createdAt ∧ a.messageId ≤ b.messageId

instance : DecidableRel MessageBefore := fun a b =>
  inferInstanceAs (Decidable (a.createdAt < b.createdAt ∨
    a.createdAt = b.createdAt ∧ a.messageId ≤ b.messageId))

def messagesOf (s : Store) (safe : String → String) (conversationId : String) : List Message :=
  ((s.messages.filter fun m => m.conversationId = conversationId).insertionSort MessageBefore).map
    fun m => { m with content := safe m.content }

def memoryRow (s : Store) (conversationId : String) : Except Failure MemoryRow :=
  match s.memories.find? fun row => row.conversationId = conversationId with
  | some row => .ok row
  | none => .error (.keyError conversationId)

def memory (s : Store) (conversationId : String) : Except Failure SemanticMemory :=
  (s.memoryRow conversationId).map MemoryRow.memory

def memoryRevision (s : Store) (conversationId : String) : Except Failure Nat :=
  (s.memoryRow conversationId).map MemoryRow.revision

/-- `WHERE conversation_id=? AND revision=?` -/
def putMemory (s : Store) (conversationId : String) (memory : SemanticMemory)
    (expectedRevision : Nat) : Except Failure (Store × Unit) :=
  match s.memoryRow conversationId with
  | .error _ => .error .conflict
  | .ok row =>
    if row.revision = expectedRevision then
      .ok ({ s with memories := s.memories.map fun row =>
        if row.conversationId = conversationId then
          { row with memory, revision := row.revision + 1 }
        else row }, ())
    else .error .conflict

theorem memoryRow_conversationId {s : Store} {conversationId : String} {row : MemoryRow}
    (h : s.memoryRow conversationId = .ok row) : row.conversationId = conversationId := by
  unfold memoryRow at h
  split at h
  · next row' hrow =>
    obtain rfl := Except.ok.inj h
    simpa using List.find?_some hrow
  · cases h

/-- What a write of the memory that succeeds has met. -/
theorem putMemory_ok {s s' : Store} {conversationId : String} {memory : SemanticMemory}
    {expectedRevision : Nat} (h : s.putMemory conversationId memory expectedRevision = .ok (s', ())) :
    s'.conversations = s.conversations ∧ s'.messages = s.messages ∧
      ∃ row, s.memoryRow conversationId = .ok row ∧ row.revision = expectedRevision ∧
        s'.memoryRow conversationId = .ok { row with memory, revision := row.revision + 1 } ∧
        ∀ other, other ≠ conversationId → s'.memoryRow other = s.memoryRow other := by
  unfold putMemory at h
  cases hrow : s.memoryRow conversationId with
  | error e => simp [hrow] at h
  | ok row =>
    simp only [hrow] at h
    split at h
    · next hrev =>
      obtain ⟨rfl, -⟩ := Prod.mk.inj (Except.ok.inj h)
      have hfind : ∀ id, (s.memories.map fun row =>
          if row.conversationId = conversationId then
            { row with memory, revision := row.revision + 1 } else row).find?
            (fun row => row.conversationId = id) =
          (s.memories.find? fun row => row.conversationId = id).map fun row =>
            if row.conversationId = conversationId then
              { row with memory, revision := row.revision + 1 } else row := by
        intro id
        rw [List.find?_map]
        congr 2
        funext r
        by_cases hr : r.conversationId = conversationId
        · simp [hr]
        · simp [hr]
      refine ⟨rfl, rfl, row, rfl, hrev, ?_, fun other hne => ?_⟩
      · have hid : row.conversationId = conversationId := memoryRow_conversationId hrow
        unfold memoryRow at hrow ⊢
        rw [hfind]
        cases hf : s.memories.find? fun row => row.conversationId = conversationId with
        | none => simp [hf] at hrow
        | some row' =>
          rw [hf] at hrow
          obtain rfl := Except.ok.inj hrow
          simp [hid]
      · unfold memoryRow
        rw [hfind]
        cases hf : s.memories.find? fun row => row.conversationId = other with
        | none => rfl
        | some row' =>
          have hid : row'.conversationId = other := by simpa using List.find?_some hf
          have hne' : row'.conversationId ≠ conversationId := by
            rw [hid]
            exact hne
          simp [hne']
    · cases h

end Store

end Conversations
