/-
BucketUrl/Proofs/HostName.lean

What is left of a host when its port is taken off.

A host loses its port and nothing else, with one exception: a host in square brackets loses them
together with its port (`name_cases`).  So the name is a beginning of the host, or it stands behind
the opening bracket, and the first dot of the name is the first dot of the host.
-/
import BucketUrl.HostPort
import BucketUrl.Text.Lemmas

namespace BucketUrl.HostPort

open Text

variable {c : Char} {s host inner port : Text}

/-- A host in square brackets with a port behind them. -/
def IsBracketed (s : Text) : Prop :=
  ∃ inner port, ']' ∉ inner ∧ IsDigits port ∧ s = '[' :: (inner ++ ']' :: ':' :: port)

/-! ### The name in its host -/

theorem bracketed?_append (hinner : ']' ∉ inner) (hport : IsDigits port) :
    bracketed? (inner ++ ']' :: ':' :: port) = some inner := by
  rw [bracketed?, cut?_append_cons hinner]
  exact if_pos hport

theorem name_bracketed (hinner : ']' ∉ inner) (hport : IsDigits port) :
    name ('[' :: (inner ++ ']' :: ':' :: port)) = inner := by
  rw [name, bracketed?_append hinner hport]
  rfl

theorem beforePort_cases (s : Text) :
    beforePort s = s ∨ ∃ port, IsDigits port ∧ s = beforePort s ++ ':' :: port := by
  rw [beforePort]
  split
  · next front port hcut =>
    split
    · next hport => exact .inr ⟨port, hport, (cutLast?_eq_some_iff.1 hcut).2⟩
    · exact .inl rfl
  · exact .inl rfl

/-- A host that is not in brackets with a port loses its port and nothing else. -/
theorem name_cases (hs : ¬IsBracketed s) :
    name s = s ∨ ∃ port, IsDigits port ∧ s = name s ++ ':' :: port := by
  rw [name.eq_def]
  split
  · next t =>
    rw [bracketed?]
    split
    · exact .inl rfl
    · next inner port hcut =>
      obtain ⟨hinner, rfl⟩ := cut?_eq_some_iff.1 hcut
      split
      · next hport => exact absurd ⟨inner, port, hinner, hport, rfl⟩ hs
      · exact beforePort_cases _
    · exact beforePort_cases _
  · exact beforePort_cases _

/-- The name is a beginning of its host. -/
theorem exists_eq_name_append (hs : ¬IsBracketed s) : ∃ t, s = name s ++ t := by
  rcases name_cases hs with h | ⟨port, -, h⟩
  · exact ⟨[], by rw [h, List.append_nil]⟩
  · exact ⟨':' :: port, h⟩

/-- In brackets with a port the name stands behind the opening bracket. -/
theorem IsBracketed.exists_eq_name_append (hs : IsBracketed s) : ∃ t, s = '[' :: (name s ++ t) := by
  obtain ⟨inner, port, hinner, hport, rfl⟩ := hs
  exact ⟨']' :: ':' :: port, by rw [name_bracketed hinner hport]⟩

/-- Bracketed or not, the name is a part of its host. -/
theorem name_isInfix (s : Text) : name s <:+: s := by
  by_cases hs : IsBracketed s
  · obtain ⟨t, ht⟩ := hs.exists_eq_name_append
    exact ⟨['['], t, ht.symm⟩
  · obtain ⟨t, ht⟩ := HostPort.exists_eq_name_append hs
    exact ⟨[], t, ht.symm⟩

theorem length_name_le (s : Text) : (name s).length ≤ s.length :=
  (name_isInfix s).length_le

theorem mem_of_mem_name (hc : c ∈ name s) : c ∈ s :=
  (name_isInfix s).subset hc

theorem mem_of_name_eq_append (hs : name s = host ++ port) (hc : c ∈ host) : c ∈ s :=
  mem_of_mem_name (hs ▸ List.mem_append_left port hc)

/-! ### Hosts that do not begin with a bracket -/

theorem name_eq_beforePort (hs : s.head? ≠ some '[') : name s = beforePort s := by
  rw [name.eq_def]
  split
  · exact absurd rfl hs
  · rfl

theorem name_eq_self (hhead : host.head? ≠ some '[') (hcolon : ':' ∉ host) : name host = host := by
  rw [name_eq_beforePort hhead, beforePort, cutLast?_eq_none_iff.2 hcolon]

theorem name_append (hhead : host.head? ≠ some '[') (hcolon : ':' ∉ port) :
    name (host ++ ':' :: port) = if IsDigits port then host else host ++ ':' :: port := by
  have hhead' : (host ++ ':' :: port).head? ≠ some '[' := by
    cases host with
    | nil => simp
    | cons c host => exact hhead
  rw [name_eq_beforePort hhead', beforePort, cutLast?_append_cons host hcolon]

end BucketUrl.HostPort
