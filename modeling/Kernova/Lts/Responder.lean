import Kernova.Lts.Run

/-!
# Components that answer

A component is called with a request and comes back with an answer, and a caller
sees nothing else of it. A `Responder` is one whose answers and states are functions
of the requests.

* `Responder.answers` — the answers to a list of requests.
* `Indistinguishable` — two states of a component that no requests tell apart.
* `Implements.run` — a component that implements a responder answers as that does.
* `Implements.visible` — the same among steps that are no calls.
* `Implements.indistinguishable`, `Implements.answers_eq` — what is indistinguishable.
-/

namespace Lts

variable {S E A Q O : Type*}

structure Responder (A Q O : Type*) where
  next : A → Q → A
  answer : A → Q → O

namespace Responder

variable (M : Responder A Q O)

/-- The state after a list of requests. -/
def after (a : A) (qs : List Q) : A := qs.foldl M.next a

def answers : A → List Q → List O
  | _, [] => []
  | a, q :: qs => M.answer a q :: answers (M.next a q) qs

theorem after_snoc (a : A) (qs : List Q) (q : Q) :
    M.after a (qs ++ [q]) = M.next (M.after a qs) q := by
  rw [after, List.foldl_append]
  rfl

theorem answers_snoc (a : A) (qs : List Q) (q : Q) :
    M.answers a (qs ++ [q]) = M.answers a qs ++ [M.answer (M.after a qs) q] := by
  induction qs generalizing a with
  | nil => rfl
  | cons q' qs ih =>
    rw [List.cons_append, answers, ih, answers, List.cons_append]
    rfl

end Responder

section

variable {step : S → E → S → Prop} {ask : E → Q} {reply : E → O} {M : Responder A Q O}
  {R : S → A → Prop} {s t s' t' : S} {a b : A} {es fs : List E}

/-- Whatever is asked, the answers in both states are the same. -/
def Indistinguishable (step : S → E → S → Prop) (ask : E → Q) (reply : E → O) (s t : S) : Prop :=
  ∀ es s' fs t', Run step s es s' → Run step t fs t' → es.map ask = fs.map ask →
    es.map reply = fs.map reply

/-- In related states, every call is answered as by the responder. -/
def Implements (step : S → E → S → Prop) (ask : E → Q) (reply : E → O) (M : Responder A Q O)
    (R : S → A → Prop) : Prop :=
  ∀ s a e t, R s a → step s e t → reply e = M.answer a (ask e) ∧ R t (M.next a (ask e))

theorem Implements.run (h : Implements step ask reply M R) (hrun : Run step s es t) (hR : R s a) :
    es.map reply = M.answers a (es.map ask) ∧ R t (M.after a (es.map ask)) := by
  induction hrun with
  | nil => exact ⟨rfl, hR⟩
  | snoc _ hstep ih =>
    rcases ih with ⟨hreply, hafter⟩
    rcases h _ _ _ _ hafter hstep with ⟨hlast, hnext⟩
    rw [List.map_append, List.map_append, List.map_singleton, List.map_singleton, M.answers_snoc,
      M.after_snoc, hreply, hlast]
    exact ⟨rfl, hnext⟩

/-- Steps that are no calls, and leave the abstract state as it is, do not show in the
answers to the calls among them. -/
theorem Implements.visible {F : Type*} {step' : S → F → S → Prop} {see : F → Option E}
    {xs : List F} (h : Implements step ask reply M R)
    (hcall : ∀ s x e t, see x = some e → step' s x t → step s e t)
    (hquiet : ∀ s a x t, R s a → see x = none → step' s x t → R t a)
    (hrun : Run step' s xs t) (hR : R s a) :
    (xs.filterMap see).map reply = M.answers a ((xs.filterMap see).map ask) ∧
      R t (M.after a ((xs.filterMap see).map ask)) := by
  induction hrun with
  | nil => exact ⟨rfl, hR⟩
  | @snoc xs t u x _ hstep ih =>
    rcases ih with ⟨hreply, hafter⟩
    cases hx : see x with
    | none =>
      rw [List.filterMap_append, List.filterMap_cons_none hx, List.filterMap_nil, List.append_nil]
      exact ⟨hreply, hquiet _ _ _ _ hafter hx hstep⟩
    | some e =>
      rcases h _ _ _ _ hafter (hcall _ _ _ _ hx hstep) with ⟨hlast, hnext⟩
      rw [List.filterMap_append, List.filterMap_cons_some hx, List.filterMap_nil, List.map_append,
        List.map_append, List.map_singleton, List.map_singleton, M.answers_snoc, M.after_snoc,
        hreply, hlast]
      exact ⟨rfl, hnext⟩

/-- States that implement the same state are indistinguishable. -/
theorem Implements.indistinguishable (h : Implements step ask reply M R) (hs : R s a)
    (ht : R t a) : Indistinguishable step ask reply s t := by
  intro es s' fs t' hes hfs hask
  rw [(h.run hes hs).1, (h.run hfs ht).1, hask]

/-- Requests that can be made in two indistinguishable states have the same answers in
the states that they implement. -/
theorem Implements.answers_eq (h : Implements step ask reply M R) (hs : R s a) (ht : R t b)
    (hst : Indistinguishable step ask reply s t) (hes : Run step s es s') (hfs : Run step t fs t')
    (hask : es.map ask = fs.map ask) : M.answers a (es.map ask) = M.answers b (es.map ask) := by
  rw [← (h.run hes hs).1, hst es s' fs t' hes hfs hask, (h.run hfs ht).1, hask]

end

end Lts
