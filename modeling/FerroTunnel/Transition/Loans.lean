import FerroTunnel.Transition.Pool
import Mathlib.Data.List.Nodup

/-!
# Things on loan

The calls of a pool hold things, each of which at most one call holds at a time,
and the things that nobody holds lie idle.  A call may take an idle thing or
bring a new one, may give back what it holds, and may lose it.
-/

namespace FerroTunnel.Transition

universe u v

variable {γ : Type u} {κ : Type v}

/-- Nothing is held twice, and what lies idle is held by no call and lies there once. -/
structure Loans (holds : γ → κ → Prop) (calls : List γ) (idle : List κ) : Prop where
  unique : ∀ key, AtMostOne calls fun call => holds call key
  free : ∀ key ∈ idle, ∀ call ∈ calls, ¬ holds call key
  nodup : idle.Nodup

namespace Loans

variable {holds : γ → κ → Prop} {calls : List γ} {idle idle' : List κ} {k : Nat} {call call' : γ}
  {key : κ}

theorem nil (holds : γ → κ → Prop) : Loans holds [] [] where
  unique _ := .nil _
  free _ member := by cases member
  nodup := .nil

variable (loans : Loans holds calls idle)

include loans

/-- A call that begins holds nothing. -/
theorem start (none : ∀ key, ¬ holds call key) : Loans holds (calls ++ [call]) idle where
  unique key := (loans.unique key).concat fun held => absurd held (none key)
  free key member other otherIn := by
    rcases List.mem_append.mp otherIn with old | new
    · exact loans.free key member other old
    · rw [List.mem_singleton.mp new]
      exact none key
  nodup := loans.nodup

/-- Idle things may get lost. -/
theorem sublist (fewer : idle'.Sublist idle) : Loans holds calls idle' where
  unique := loans.unique
  free key member := loans.free key (fewer.subset member)
  nodup := loans.nodup.sublist fewer

/-- A call goes on with what it holds, or loses it. -/
theorem keep (callAt : calls[k]? = some call) (kept : ∀ key, holds call' key → holds call key) :
    Loans holds (calls.set k call') idle where
  unique key := (loans.unique key).set callAt fun held => .inl (kept key held)
  free key member other otherIn held := by
    rcases List.mem_or_eq_of_mem_set otherIn with old | rfl
    · exact loans.free key member other old held
    · exact loans.free key member call (List.mem_of_getElem? callAt) (kept key held)
  nodup := loans.nodup

/-- A call gets hold of one thing that nobody holds and that does not lie idle any more. -/
theorem gain (callAt : calls[k]? = some call) (unheld : ∀ other ∈ calls, ¬ holds other key)
    (absent : key ∉ idle) (only : ∀ other, holds call' other → other = key) :
    Loans holds (calls.set k call') idle where
  unique other := (loans.unique other).set callAt fun held => .inr (only other held ▸ unheld)
  free other member party partyIn held := by
    rcases List.mem_or_eq_of_mem_set partyIn with old | rfl
    · exact loans.free other member party old held
    · exact absent (only other held ▸ member)
  nodup := loans.nodup

omit loans

/-- A call takes the idle thing at the end. -/
theorem take (loans : Loans holds calls (idle ++ [key])) (callAt : calls[k]? = some call)
    (only : ∀ other, holds call' other → other = key) : Loans holds (calls.set k call') idle := by
  have absent : key ∉ idle := by
    have distinct := loans.nodup
    rw [← List.concat_eq_append] at distinct
    exact (List.nodup_concat idle key).mp distinct |>.1
  apply (loans.sublist (List.sublist_append_left idle [key])).gain callAt _ absent only
  exact loans.free key (List.mem_append_right idle List.mem_cons_self)

/-- A call gives back what it holds. -/
theorem giveBack (loans : Loans holds calls idle) (callAt : calls[k]? = some call)
    (held : holds call key) (none : ∀ other, ¬ holds call' other) :
    Loans holds (calls.set k call') (idle ++ [key]) where
  unique other := (loans.unique other).set callAt fun holding => absurd holding (none other)
  free other member party partyIn holding := by
    rcases getElem?_set_cases (List.mem_iff_getElem?.mp partyIn).choose_spec with
      ⟨-, rfl⟩ | ⟨differs, old⟩
    · exact none other holding
    · rcases List.mem_append.mp member with before | given
      · exact loans.free other before party (List.mem_of_getElem? old) holding
      · rw [List.mem_singleton.mp given] at holding
        exact differs (loans.unique key old callAt holding held)
  nodup := by
    have absent : key ∉ idle :=
      fun member => loans.free key member call (List.mem_of_getElem? callAt) held
    rw [← List.concat_eq_append]
    exact (List.nodup_concat idle key).mpr ⟨absent, loans.nodup⟩

end Loans

end FerroTunnel.Transition
