/-
Notices to subscribers. A notice goes to those who are subscribed at that moment, once to each.
-/
namespace AccessControl

/-- The subscribers with the numbers by which they can leave, in the order in which they came. -/
structure Notices (α : Type) where
  next : Nat
  subscribers : List (Nat × α)
deriving Repr

namespace Notices

variable {α : Type}

/-- Nobody is subscribed; the first number is one. -/
def none : Notices α := ⟨1, []⟩

def subscribe (n : Notices α) (subscriber : α) : Nat × Notices α :=
  (n.next, ⟨n.next + 1, n.subscribers ++ [(n.next, subscriber)]⟩)

/-- Removes the subscriber with a number; tells whether there was one. -/
def unsubscribe (n : Notices α) (id : Nat) : Bool × Notices α :=
  (n.subscribers.any fun s => s.1 == id,
    { n with subscribers := n.subscribers.filter fun s => s.1 != id })

def count (n : Notices α) : Nat := n.subscribers.length

/-- Who hears a notice. -/
def audience (n : Notices α) : List (Nat × α) := n.subscribers

/-- How a listing shows the notices. -/
def render (n : Notices α) : String :=
  s!"InMemoryNoticeBus \x7b subscribers: {n.count} \x7d"

/-- The numbers in use are all smaller than the next one and no two are equal. -/
structure WF (n : Notices α) : Prop where
  smaller : ∀ s ∈ n.subscribers, s.1 < n.next
  nodup : (n.subscribers.map Prod.fst).Nodup

theorem none_wf : (none : Notices α).WF := ⟨by simp [none], by simp [none]⟩

theorem WF.subscribe {n : Notices α} (h : n.WF) (a : α) : (n.subscribe a).2.WF := by
  refine ⟨fun s hs => ?_, ?_⟩
  · simp only [Notices.subscribe, List.mem_append, List.mem_singleton] at hs
    rcases hs with hs | rfl
    · exact Nat.lt_succ_of_lt (h.smaller s hs)
    · exact Nat.lt_succ_self _
  · simp only [Notices.subscribe, List.map_append, List.map_cons, List.map_nil, List.nodup_append]
    refine ⟨h.nodup, by simp, fun a ha b hb => ?_⟩
    obtain ⟨s, hs, rfl⟩ := List.mem_map.mp ha
    simp only [List.mem_singleton] at hb
    subst hb
    exact Nat.ne_of_lt (h.smaller s hs)

theorem WF.unsubscribe {n : Notices α} (h : n.WF) (id : Nat) : (n.unsubscribe id).2.WF :=
  ⟨fun s hs => h.smaller s (List.mem_filter.mp hs).1,
    h.nodup.sublist (List.Sublist.map _ List.filter_sublist)⟩

end Notices

end AccessControl
