/-
What subscribers hear. A history of subscriptions, removals and publications gives numbers, removes
subscribers and delivers messages; what it has done is compared with what was asked for alone. A
subscriber is registered from the subscription that gave its number until a removal of that number
(`mem_after`), and hears the messages published between the two, each once (`heard_after`). Main
statement: `delivers_once`.
-/
import AccessControl.Notices
import Mathlib.Data.List.Nodup
import Mathlib.Data.Set.Card

namespace AccessControl.Notices

variable {α μ : Type}

/-! ## One moment -/

/-- Who is run when a message is published, under which number and with what. -/
def deliveries (n : Notices α) (message : μ) : List (Nat × α × μ) :=
  n.audience.map fun s => (s.1, s.2, message)

theorem mem_deliveries {n : Notices α} {message : μ} {d : Nat × α × μ} :
    d ∈ n.deliveries message ↔ (d.1, d.2.1) ∈ n.subscribers ∧ d.2.2 = message := by
  obtain ⟨id, a, m⟩ := d
  simp only [deliveries, audience, List.mem_map, Prod.mk.injEq]
  constructor
  · rintro ⟨⟨i, b⟩, hmem, rfl, rfl, rfl⟩
    exact ⟨hmem, rfl⟩
  · rintro ⟨hmem, rfl⟩
    exact ⟨(id, a), hmem, rfl, rfl, rfl⟩

theorem deliveries_numbers (n : Notices α) (message : μ) :
    (n.deliveries message).map Prod.fst = n.subscribers.map Prod.fst := by
  simp [deliveries, audience, Function.comp_def]

theorem mem_subscribe {n : Notices α} {subscriber : α} {s : Nat × α} :
    s ∈ (n.subscribe subscriber).2.subscribers ↔
      s ∈ n.subscribers ∨ s = (n.next, subscriber) := by
  simp [subscribe]

theorem mem_unsubscribe {n : Notices α} {id : Nat} {s : Nat × α} :
    s ∈ (n.unsubscribe id).2.subscribers ↔ s ∈ n.subscribers ∧ s.1 ≠ id := by
  simp [unsubscribe]

theorem unsubscribe_found {n : Notices α} {id : Nat} :
    (n.unsubscribe id).1 = true ↔ ∃ a, (id, a) ∈ n.subscribers := by
  simp only [unsubscribe, List.any_eq_true, beq_iff_eq]
  constructor
  · rintro ⟨⟨i, a⟩, hmem, rfl⟩
    exact ⟨a, hmem⟩
  · rintro ⟨a, hmem⟩
    exact ⟨(id, a), hmem, rfl⟩

/-- A number belongs to one subscriber. -/
theorem WF.unique {n : Notices α} (h : n.WF) {id : Nat} {a b : α} (ha : (id, a) ∈ n.subscribers)
    (hb : (id, b) ∈ n.subscribers) : a = b :=
  congrArg Prod.snd (List.inj_on_of_nodup_map h.nodup ha hb rfl)

/-- Of what is delivered at one moment a subscriber gets one copy. -/
theorem WF.deliveries_to {n : Notices α} (h : n.WF) {id : Nat} {a : α}
    (hmem : (id, a) ∈ n.subscribers) (message : μ) :
    (n.deliveries message).filter (fun d => d.1 == id) = [(id, a, message)] := by
  have hin : (id, a, message) ∈ (n.deliveries message).filter (fun d => d.1 == id) :=
    List.mem_filter.2 ⟨mem_deliveries.2 ⟨hmem, rfl⟩, beq_self_eq_true id⟩
  have hnodup : ((n.deliveries message).filter (fun d => d.1 == id)).Nodup := by
    have hnumbers : ((n.deliveries message).map Prod.fst).Nodup := by
      rw [deliveries_numbers]
      exact h.nodup
    exact (hnumbers.of_map _).filter _
  have hall : ∀ d ∈ (n.deliveries message).filter (fun d => d.1 == id), d = (id, a, message) := by
    rintro ⟨i, b, m⟩ hd
    obtain ⟨hd, hi⟩ := List.mem_filter.1 hd
    obtain ⟨hb, rfl⟩ := mem_deliveries.1 hd
    obtain rfl : i = id := beq_iff_eq.1 hi
    rw [h.unique hmem hb]
  exact List.perm_singleton.1 ((List.perm_ext_iff_of_nodup hnodup (List.nodup_singleton _)).2
    fun d => ⟨fun hd => List.mem_singleton.2 (hall d hd), fun hd => List.mem_singleton.1 hd ▸ hin⟩)

/-- Nothing is delivered under a number that is not in use. -/
theorem deliveries_to_none {n : Notices α} {id : Nat} (h : ∀ a, (id, a) ∉ n.subscribers)
    (message : μ) : (n.deliveries message).filter (fun d => d.1 == id) = [] := by
  rw [List.filter_eq_nil_iff]
  rintro ⟨i, a, m⟩ hd hi
  obtain rfl : i = id := beq_iff_eq.1 hi
  exact h a (mem_deliveries.1 hd).1

/-! ## Histories -/

/-- What can be asked for. -/
inductive Act (α μ : Type)
  | subscribe (subscriber : α)
  | unsubscribe (id : Nat)
  | publish (message : μ)

/-- The subscribers, and all that was answered and delivered so far, in order. -/
structure History (α μ : Type) where
  notices : Notices α
  /-- The numbers that were given to subscribers. -/
  given : List Nat
  /-- The numbers whose removal was answered with success. -/
  removed : List Nat
  delivered : List (Nat × α × μ)

namespace History

def start : History α μ := ⟨none, [], [], []⟩

def step (h : History α μ) : Act α μ → History α μ
  | .subscribe a =>
    let (id, notices) := h.notices.subscribe a
    { h with notices, given := h.given ++ [id] }
  | .unsubscribe id =>
    let (found, notices) := h.notices.unsubscribe id
    { h with notices, removed := if found then h.removed ++ [id] else h.removed }
  | .publish message => { h with delivered := h.delivered ++ h.notices.deliveries message }

/-- A history goes on with what is asked for next. -/
def after (h : History α μ) (acts : List (Act α μ)) : History α μ := acts.foldl step h

/-- What was delivered under a number. -/
def heard (h : History α μ) (id : Nat) : List (Nat × α × μ) := h.delivered.filter fun d => d.1 == id

theorem after_cons (h : History α μ) (act : Act α μ) (acts : List (Act α μ)) :
    h.after (act :: acts) = (h.step act).after acts := rfl

theorem after_append (h : History α μ) (earlier later : List (Act α μ)) :
    h.after (earlier ++ later) = (h.after earlier).after later := List.foldl_append

/-- Numbers are given in turn, one is removed at most once and for good, and only numbers that were
given are in use or hear anything. -/
structure Sound (h : History α μ) : Prop where
  wf : h.notices.WF
  next : h.notices.next = h.given.length + 1
  given : h.given = List.range' 1 h.given.length
  known : ∀ s ∈ h.notices.subscribers, s.1 ∈ h.given
  removed : h.removed.Nodup
  gone : ∀ id ∈ h.removed, id < h.notices.next ∧ ∀ a, (id, a) ∉ h.notices.subscribers
  heard : ∀ d ∈ h.delivered, d.1 ∈ h.given

theorem sound_start : (start : History α μ).Sound where
  wf := none_wf
  next := rfl
  given := rfl
  known _ h := absurd h List.not_mem_nil
  removed := List.nodup_nil
  gone _ h := absurd h List.not_mem_nil
  heard _ h := absurd h List.not_mem_nil

theorem Sound.lt_next {h : History α μ} (hs : h.Sound) {id : Nat} (hid : id ∈ h.given) :
    id < h.notices.next := by
  rw [hs.given, List.mem_range'_1] at hid
  have := hs.next
  omega

theorem Sound.subscribe {h : History α μ} (hs : h.Sound) (a : α) :
    (h.step (.subscribe a)).Sound := by
  have hlast : (h.notices.subscribe a).1 = 1 + h.given.length := by
    simp only [Notices.subscribe, hs.next]
    omega
  refine ⟨hs.wf.subscribe a, ?_, ?_, fun s hmem => ?_, hs.removed, fun id hid => ?_, fun d hd => ?_⟩
  · simp [step, Notices.subscribe, hs.next]
  · simp only [step, List.length_append, List.length_singleton, hlast]
    rw [List.range'_concat, Nat.one_mul, ← hs.given]
  · rcases mem_subscribe.1 hmem with hmem | rfl
    · exact List.mem_append_left _ (hs.known s hmem)
    · exact List.mem_append_right _ (List.mem_singleton_self _)
  · -- the number that is given has not been removed: it is a new one
    obtain ⟨hlt, hnone⟩ := hs.gone id hid
    refine ⟨Nat.lt_succ_of_lt hlt, fun b hb => ?_⟩
    rcases mem_subscribe.1 hb with hb | hb
    · exact hnone b hb
    · simp only [Prod.mk.injEq] at hb
      omega
  · exact List.mem_append_left _ (hs.heard d hd)

theorem mem_removed_step {h : History α μ} {id i : Nat} :
    i ∈ (h.step (.unsubscribe id)).removed ↔
      i ∈ h.removed ∨ i = id ∧ ∃ a, (id, a) ∈ h.notices.subscribers := by
  rw [← unsubscribe_found]
  simp only [step]
  split
  · rename_i hfound
    simp [hfound]
  · rename_i hfound
    simp [hfound]

theorem Sound.unsubscribe {h : History α μ} (hs : h.Sound) (id : Nat) :
    (h.step (.unsubscribe id)).Sound := by
  refine ⟨hs.wf.unsubscribe id, hs.next, hs.given, fun s hmem => ?_, ?_, fun i hi => ?_, hs.heard⟩
  · exact hs.known s (mem_unsubscribe.1 hmem).1
  · simp only [step]
    split
    · rename_i hfound
      obtain ⟨a, ha⟩ := unsubscribe_found.1 hfound
      refine List.nodup_append.2 ⟨hs.removed, List.nodup_singleton _, ?_⟩
      rintro i hi j hj rfl
      obtain rfl := List.mem_singleton.1 hj
      exact (hs.gone i hi).2 a ha
    · exact hs.removed
  · rcases mem_removed_step.1 hi with hi | ⟨rfl, a, ha⟩
    · obtain ⟨hlt, hnone⟩ := hs.gone i hi
      exact ⟨hlt, fun b hb => hnone b (mem_unsubscribe.1 hb).1⟩
    · exact ⟨hs.wf.smaller _ ha, fun b hb => (mem_unsubscribe.1 hb).2 rfl⟩

theorem Sound.publish {h : History α μ} (hs : h.Sound) (message : μ) :
    (h.step (.publish message)).Sound := by
  refine ⟨hs.wf, hs.next, hs.given, hs.known, hs.removed, hs.gone, fun d hd => ?_⟩
  rcases List.mem_append.1 hd with hd | hd
  · exact hs.heard d hd
  · exact hs.known _ (mem_deliveries.1 hd).1

theorem Sound.step {h : History α μ} (hs : h.Sound) (act : Act α μ) : (h.step act).Sound := by
  cases act with
  | subscribe a => exact hs.subscribe a
  | unsubscribe id => exact hs.unsubscribe id
  | publish message => exact hs.publish message

theorem Sound.after {h : History α μ} (hs : h.Sound) (acts : List (Act α μ)) :
    (h.after acts).Sound := by
  induction acts generalizing h with
  | nil => exact hs
  | cons act acts ih => exact ih (hs.step act)

/-! ## Who is registered -/

/-- The number that a subscriber is answered that subscribes next. -/
def numberFor (acts : List (Act α μ)) (subscriber : α) : Nat :=
  ((start.after acts).notices.subscribe subscriber).1

/-- What was asked for registers a subscriber under a number: its subscription was answered with
that number, and nobody has asked since to remove it. -/
def Registered (acts : List (Act α μ)) (s : Nat × α) : Prop :=
  ∃ earlier later, acts = earlier ++ .subscribe s.2 :: later ∧ numberFor earlier s.2 = s.1 ∧
    ∀ act ∈ later, act ≠ .unsubscribe s.1

theorem registered_append {acts : List (Act α μ)} {act : Act α μ} {s : Nat × α} :
    Registered (acts ++ [act]) s ↔ Registered acts s ∧ act ≠ .unsubscribe s.1 ∨
      act = .subscribe s.2 ∧ numberFor acts s.2 = s.1 := by
  constructor
  · rintro ⟨earlier, later, hacts, hnumber, hkept⟩
    rcases List.eq_nil_or_concat later with rfl | ⟨rest, last, rfl⟩
    · obtain ⟨rfl, hact⟩ := List.append_inj' hacts rfl
      exact .inr ⟨List.singleton_inj.1 hact, hnumber⟩
    · rw [List.concat_eq_append, ← List.cons_append, ← List.append_assoc] at hacts
      obtain ⟨rfl, hact⟩ := List.append_inj' hacts rfl
      obtain rfl := List.singleton_inj.1 hact
      refine .inl ⟨⟨earlier, rest, rfl, hnumber, fun a ha => hkept a ?_⟩, hkept act ?_⟩
      · simp [ha]
      · simp
  · rintro (⟨⟨earlier, later, rfl, hnumber, hkept⟩, hact⟩ | ⟨rfl, hnumber⟩)
    · refine ⟨earlier, later ++ [act], by simp, hnumber, fun a ha => ?_⟩
      rcases List.mem_append.1 ha with ha | ha
      · exact hkept a ha
      · exact List.mem_singleton.1 ha ▸ hact
    · exact ⟨acts, [], rfl, hnumber, fun a ha => absurd ha List.not_mem_nil⟩

/-- The subscribers are those that are registered. -/
theorem mem_after (acts : List (Act α μ)) (s : Nat × α) :
    s ∈ (start.after acts).notices.subscribers ↔ Registered acts s := by
  induction acts using List.reverseRecOn with
  | nil =>
    refine iff_of_false List.not_mem_nil ?_
    rintro ⟨earlier, later, hacts, -⟩
    simp at hacts
  | append_singleton acts act ih =>
    rw [registered_append, ← ih, after_append]
    cases act with
    | subscribe a =>
      refine mem_subscribe.trans ?_
      rw [Prod.ext_iff]
      simp [numberFor, Notices.subscribe, eq_comm, and_comm]
    | unsubscribe id =>
      refine mem_unsubscribe.trans ?_
      simp [eq_comm]
    | publish message => simp [after, step]

/-! ## Who hears what -/

/-- The messages that are published until a number is removed. -/
def messagesUntil (id : Nat) : List (Act α μ) → List μ
  | [] => []
  | .subscribe _ :: acts => messagesUntil id acts
  | .unsubscribe i :: acts => if i = id then [] else messagesUntil id acts
  | .publish message :: acts => message :: messagesUntil id acts

theorem heard_publish (h : History α μ) (message : μ) (id : Nat) :
    (h.step (.publish message)).heard id =
      h.heard id ++ (h.notices.deliveries message).filter (fun d => d.1 == id) :=
  List.filter_append ..

/-- A number that was given and is no longer in use hears nothing any more. -/
theorem heard_after_gone {h : History α μ} {id : Nat} (hlt : id < h.notices.next)
    (hgone : ∀ a, (id, a) ∉ h.notices.subscribers) (acts : List (Act α μ)) :
    (h.after acts).heard id = h.heard id := by
  induction acts generalizing h with
  | nil => rfl
  | cons act acts ih =>
    rw [after_cons]
    cases act with
    | subscribe a =>
      refine (ih (Nat.lt_succ_of_lt hlt) fun b hb => ?_).trans rfl
      rcases mem_subscribe.1 hb with hb | hb
      · exact hgone b hb
      · simp only [Prod.mk.injEq] at hb
        omega
    | unsubscribe i => exact ih hlt fun b hb => hgone b (mem_unsubscribe.1 hb).1
    | publish message =>
      rw [ih (h := h.step (.publish message)) hlt hgone, heard_publish, deliveries_to_none hgone,
        List.append_nil]

/-- A number that is still to be given has heard nothing. -/
theorem Sound.heard_next {h : History α μ} (hs : h.Sound) : h.heard h.notices.next = [] := by
  refine List.filter_eq_nil_iff.2 fun d hd hsame => ?_
  have hlt : d.1 < h.notices.next := hs.lt_next (hs.heard d hd)
  rw [beq_iff_eq] at hsame
  omega

/-- A subscriber hears what is published until it is removed. -/
theorem heard_after {h : History α μ} (hs : h.Sound) {id : Nat} {a : α}
    (hmem : (id, a) ∈ h.notices.subscribers) (acts : List (Act α μ)) :
    (h.after acts).heard id =
      h.heard id ++ (messagesUntil id acts).map fun message => (id, a, message) := by
  induction acts generalizing h with
  | nil => simp [after, messagesUntil]
  | cons act acts ih =>
    rw [after_cons]
    cases act with
    | subscribe b => exact ih (hs.subscribe b) (mem_subscribe.2 (.inl hmem))
    | unsubscribe i =>
      by_cases hi : i = id
      · subst hi
        have hnone : ∀ b, (i, b) ∉ (h.step (.unsubscribe i)).notices.subscribers :=
          fun b hb => (mem_unsubscribe.1 hb).2 rfl
        rw [heard_after_gone (h := h.step (.unsubscribe i)) (hs.wf.smaller _ hmem) hnone]
        simp [messagesUntil, step, heard]
      · rw [ih (hs.unsubscribe i) (mem_unsubscribe.2 ⟨hmem, Ne.symm hi⟩), messagesUntil, if_neg hi]
        rfl
    | publish message =>
      rw [ih (hs.publish message) hmem, heard_publish, hs.wf.deliveries_to hmem]
      simp [messagesUntil]

end History

/-! ## Delivery -/

open History

/-- How many subscriptions are asked for. -/
def subscriptions (acts : List (Act α μ)) : Nat :=
  acts.countP fun
    | .subscribe _ => true
    | _ => false

/-- What was asked for has given each subscription a number of its own, removed whom it was to
remove, and delivered each message to those who were registered, once. -/
structure DeliversOnce (acts : List (Act α μ)) : Prop where
  /-- The numbers are given in turn from one on. -/
  numbers : (start.after acts).given = List.range' 1 (subscriptions acts)
  /-- No number is given twice. -/
  distinct : (start.after acts).given.Nodup
  /-- Of fewer than 2^64 subscriptions each is told from the others by 64 bits. -/
  fits : subscriptions acts < Nat.pow 2 64 → ∀ id ∈ (start.after acts).given, id.toUInt64.toNat = id
  registered : ∀ s, s ∈ (start.after acts).notices.subscribers ↔ Registered acts s
  /-- A removal succeeds just for a number in use; it takes away that subscriber and no other. -/
  found : ∀ id, ((start.after acts).notices.unsubscribe id).1 = true ↔ ∃ a, Registered acts (id, a)
  others : ∀ id s, s ∈ ((start.after acts).notices.unsubscribe id).2.subscribers ↔
    Registered acts s ∧ s.1 ≠ id
  /-- The removal of a number succeeds at most once. -/
  removed : (start.after acts).removed.Nodup
  /-- A message goes to each that is registered at the moment, once, and to no other. -/
  runs : ∀ message : μ, (((start.after acts).notices.deliveries message).map Prod.fst).Nodup ∧
    ∀ d, d ∈ (start.after acts).notices.deliveries message ↔
      Registered acts (d.1, d.2.1) ∧ d.2.2 = message
  /-- A subscriber has heard, each once and in order, the messages published since its subscription
  and until its removal. -/
  heard : ∀ earlier a later, acts = earlier ++ .subscribe a :: later →
    (start.after acts).heard (numberFor earlier a) =
      (messagesUntil (numberFor earlier a) later).map fun message =>
        (numberFor earlier a, a, message)
  /-- Nobody else has heard anything. -/
  strangers : ∀ d ∈ (start.after acts).delivered, d.1 ∈ (start.after acts).given
  count : (start.after acts).notices.count = {id | ∃ a, Registered acts (id, a)}.ncard

theorem length_given (h : History α μ) (acts : List (Act α μ)) :
    (h.after acts).given.length = h.given.length + subscriptions acts := by
  induction acts generalizing h with
  | nil => rfl
  | cons act acts ih =>
    rw [after_cons, ih]
    cases act with
    | subscribe a =>
      simp [History.step, subscriptions]
      omega
    | unsubscribe id => simp [History.step, subscriptions]
    | publish message => simp [History.step, subscriptions]

/-- No two are registered under one number, so counting the subscribers counts the numbers. -/
theorem count_registered {acts : List (Act α μ)} (hwf : (start.after acts).notices.WF) :
    (start.after acts).notices.count = {id | ∃ a, Registered acts (id, a)}.ncard := by
  have hnumbers : {id | ∃ a, Registered acts (id, a)} =
      (((start.after acts).notices.subscribers.map Prod.fst).toFinset : Set Nat) := by
    ext id
    simp [← mem_after]
  rw [hnumbers, Set.ncard_coe_finset, List.toFinset_card_of_nodup hwf.nodup, List.length_map]
  rfl

/-- Whatever is asked for, numbers are given once and messages are delivered once. -/
theorem delivers_once (acts : List (Act α μ)) : DeliversOnce acts := by
  have hs : (start.after acts).Sound := sound_start.after acts
  have hlength : (start.after acts).given.length = subscriptions acts := by
    rw [length_given]
    exact Nat.zero_add _
  have hgiven : (start.after acts).given = List.range' 1 (subscriptions acts) :=
    hlength ▸ hs.given
  exact {
    numbers := hgiven
    distinct := hgiven ▸ List.nodup_range'
    fits := by
      intro hfew id hid
      rw [hgiven, List.mem_range'_1] at hid
      have hsmall : id < 2 ^ 64 := by
        simp only [Nat.pow_eq] at hfew
        omega
      exact Nat.mod_eq_of_lt hsmall
    registered := mem_after acts
    found := by
      intro id
      simp only [unsubscribe_found, mem_after]
    others := by
      intro id s
      rw [mem_unsubscribe, mem_after]
    removed := hs.removed
    runs := by
      intro message
      constructor
      · rw [deliveries_numbers]
        exact hs.wf.nodup
      · intro d
        rw [mem_deliveries, mem_after]
    heard := by
      rintro earlier a later rfl
      have hearlier : (start.after earlier).Sound := sound_start.after earlier
      have hmem : (numberFor earlier a, a) ∈
          ((start.after earlier).step (.subscribe a)).notices.subscribers :=
        mem_subscribe.2 (.inr rfl)
      have hnothing :
          ((start.after earlier).step (.subscribe a)).heard (numberFor earlier a) = [] :=
        hearlier.heard_next
      rw [after_append, after_cons, heard_after (hearlier.subscribe a) hmem, hnothing,
        List.nil_append]
    strangers := hs.heard
    count := count_registered hs.wf }

end AccessControl.Notices
