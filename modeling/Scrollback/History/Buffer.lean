import Scrollback.Message.Basic

/-!
The latest messages of a chat, and what is kept of them at some time.
-/

namespace Scrollback

structure Snapshot where
  messages : List Message

namespace Snapshot

def size (s : Snapshot) : Nat := s.messages.length

end Snapshot

structure Buffer where
  messages : List Message
  limit : Nat
  limit_pos : 0 < limit
  length_le : messages.length ≤ limit

namespace Buffer

def defaultLimit : Nat := 1000

def ofLimit (limit : Nat) : Buffer where
  messages := []
  limit := max limit 1
  limit_pos := by omega
  length_le := by simp

def empty : Buffer := ofLimit defaultLimit

def size (b : Buffer) : Nat := b.messages.length

def push (b : Buffer) (m : Message) : Buffer :=
  if _h : b.messages.length = b.limit then
    { b with
      messages := b.messages.tail ++ [m]
      length_le := by have := b.limit_pos; simp; omega }
  else
    { b with
      messages := b.messages ++ [m]
      length_le := by have := b.length_le; simp; omega }

@[simp] theorem limit_push (b : Buffer) (m : Message) : (b.push m).limit = b.limit := by
  unfold push
  split <;> rfl

theorem messages_push (b : Buffer) (m : Message) :
    (b.push m).messages = (b.messages ++ [m]).drop (b.messages.length + 1 - b.limit) := by
  have room := b.length_le
  have pos := b.limit_pos
  unfold push
  split
  · rename_i full
    rw [show b.messages.length + 1 - b.limit = 1 by omega, List.drop_one,
      List.tail_append_of_ne_nil (List.ne_nil_of_length_pos (by omega))]
  · rw [show b.messages.length + 1 - b.limit = 0 by omega]
    rfl

def extend (b : Buffer) (ms : List Message) : Buffer := ms.foldl push b

def clear (b : Buffer) : Buffer := { b with messages := [], length_le := by simp }

def snapshot (b : Buffer) : Snapshot := ⟨b.messages⟩

def mentions (b : Buffer) : Snapshot := ⟨b.messages.filter (·.has .showInMentions)⟩

end Buffer

end Scrollback
