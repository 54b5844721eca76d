/-
Gates are fair in whatever order their callers act. Main statement: however callers have entered a
gate, been cancelled and been told to release it, at most one of them holds it, no one waits for a
free gate once all have acted, they get it in the order in which they entered, those cancelled in
time never hold it and stop nobody, and nobody else notices a cancellation (`Gate.fair_run`).
-/
import AccessControl.Gate
import Mathlib.Data.List.Basic

namespace AccessControl

namespace Caller

/-- The caller has left the gate. -/
def finished (c : Caller) : Bool := c.turn == .released || c.turn == .cancelled

/-- The caller has been let in at some time. -/
def admitted (c : Caller) : Bool := c.turn == .holding || c.turn == .released

/-- The caller has been told to give up before it has been let in. -/
def withdrawn (c : Caller) : Bool := c.turn == .waiting && c.givesUp

/-- The caller leaves the gate as soon as it acts. -/
def leaves (c : Caller) : Bool :=
  c.finished || c.withdrawn || (c.turn == .holding && c.releases)

end Caller

namespace Gate

/-! ## What one caller does -/

/-- The caller after it has acted, when the lock has been handed to it or not. -/
def acted (has : Bool) (c : Caller) : Caller := { c with turn := Caller.turnWhen c has }

section Acted

variable {c : Caller} {has will : Bool}

theorem acted_of_finished (h : c.finished) : acted has c = c := by
  obtain ⟨name, turn, givesUp, releases⟩ := c
  cases turn <;> first | rfl | cases h

theorem finished_acted (h : c.leaves) : (acted has c).finished := by
  obtain ⟨name, turn, givesUp, releases⟩ := c
  cases turn <;> cases givesUp <;> cases releases <;> first | rfl | cases h

/-- A caller that the lock has been handed to does not wait after it has acted. -/
theorem finished_acted_iff : (acted true c).finished = ((acted true c).turn != .holding) := by
  obtain ⟨name, turn, givesUp, releases⟩ := c
  cases turn <;> cases givesUp <;> cases releases <;> rfl

/-- Acting before changes nothing, unless the lock has been handed to the caller too early. -/
theorem acted_acted (h : has → will) : acted will (acted has c) = acted will c := by
  obtain ⟨name, turn, givesUp, releases⟩ := c
  cases turn <;> cases givesUp <;> cases releases <;> cases has <;> cases will <;>
    first | rfl | cases h rfl

theorem turn_acted (hwaits : c.turn = .waiting) (hstays : c.givesUp = false) :
    (acted true c).turn = if c.releases then .released else .holding := by
  obtain ⟨name, turn, givesUp, releases⟩ := c
  obtain rfl : turn = .waiting := hwaits
  obtain rfl : givesUp = false := hstays
  rfl

/-- A caller that acts has been let in before, or the lock has been handed to it. -/
theorem admitted_or_has (h : (acted has c).admitted) : c.admitted ∨ has = true := by
  obtain ⟨name, turn, givesUp, releases⟩ := c
  cases has
  · cases turn <;> cases givesUp <;> cases releases <;> first | exact .inl rfl | cases h
  · exact .inr rfl

end Acted

/-! ## Callers that act in any order -/

/-- The place of the caller that the lock has been handed to: the first that has not left. When it
leaves, whether it has held the gate or not, the lock is handed to the next. -/
def handed (gate : Gate) : Option Nat := gate.findIdx? fun c => !c.finished

/-- Lets the caller at a place act, and no other. -/
def act (gate : Gate) (place : Nat) : Gate :=
  gate.modify place (acted (gate.handed == some place))

/-- Lets callers act one after the other. -/
def acts (gate : Gate) (places : List Nat) : Gate := places.foldl act gate

/-- No caller can do anything more. -/
def Quiet (gate : Gate) : Prop := ∀ place, gate.act place = gate

/-- All callers before a place have left. -/
def Clear (gate : Gate) (place : Nat) : Prop :=
  ∀ i d, i < place → gate[i]? = some d → d.finished

variable {gate : Gate} {place : Nat} {c : Caller}

theorem handed_iff (hc : gate[place]? = some c) :
    gate.handed = some place ↔ gate.Clear place ∧ c.finished = false := by
  unfold handed
  rw [List.findIdx?_eq_some_iff_getElem]
  obtain ⟨hplace, rfl⟩ := List.getElem?_eq_some_iff.1 hc
  constructor
  · rintro ⟨_, hlast, hbefore⟩
    refine ⟨fun i d hi hd => ?_, by simpa using hlast⟩
    obtain ⟨_, rfl⟩ := List.getElem?_eq_some_iff.1 hd
    simpa using hbefore i hi
  · rintro ⟨hclear, hlast⟩
    refine ⟨hplace, by simpa using hlast, fun i hi => ?_⟩
    simpa using hclear i _ hi (List.getElem?_eq_getElem (Nat.lt_trans hi hplace))

/-- What a caller does depends on those before it alone. -/
theorem act_getElem? (gate : Gate) (place i : Nat) :
    (gate.act place)[i]? =
      gate[i]?.map fun c => if place = i then acted (gate.handed == some place) c else c := by
  unfold act
  rw [List.getElem?_modify]
  split <;> simp_all

/-- Where nothing is left to be done, no caller changes when it acts. -/
theorem Quiet.acted (h : gate.Quiet) (hc : gate[place]? = some c) :
    acted (gate.handed == some place) c = c := by
  have hsame := act_getElem? gate place place
  rw [h place, hc, Option.map_some, if_pos rfl] at hsame
  exact (Option.some.inj hsame).symm

/-! ## All callers in their order -/

theorem settleFrom_cons (free : Bool) (c : Caller) (rest : Gate) :
    settleFrom free (c :: rest) =
      acted free c :: settleFrom (free && (acted free c).turn != .holding) rest := rfl

/-- It does not matter for what all come to that one of them has acted before. -/
theorem settleFrom_modify {free has : Bool} (gate : Gate) (place : Nat)
    (h : has → free ∧ gate.Clear place) :
    settleFrom free (gate.modify place (acted has)) = settleFrom free gate := by
  induction gate generalizing place free with
  | nil => cases place <;> rfl
  | cons c rest ih =>
    cases place with
    | zero =>
      show settleFrom free (acted has c :: rest) = _
      rw [settleFrom_cons, settleFrom_cons, acted_acted fun hhas => (h hhas).1]
    | succ place =>
      show settleFrom free (c :: rest.modify place (acted has)) = _
      rw [settleFrom_cons, settleFrom_cons, ih place fun hhas => ?_]
      obtain ⟨hfree, hclear⟩ := h hhas
      have hc : c.finished := hclear 0 c (Nat.succ_pos _) rfl
      refine ⟨?_, fun i d hi hd => hclear (i + 1) d (Nat.succ_lt_succ hi) hd⟩
      rw [hfree]
      subst hfree
      rw [← finished_acted_iff, acted_of_finished hc, hc]
      rfl

theorem settle_act (gate : Gate) (place : Nat) : (gate.act place).settle = gate.settle := by
  unfold settle act
  cases hc : gate[place]? with
  | none => rw [List.modify_eq_self (List.getElem?_eq_none_iff.1 hc)]
  | some c =>
    refine settleFrom_modify gate place fun hhas => ⟨rfl, ?_⟩
    exact ((handed_iff hc).1 (by simpa using hhas)).1

theorem settle_acts (gate : Gate) (places : List Nat) : (gate.acts places).settle = gate.settle := by
  induction places generalizing gate with
  | nil => rfl
  | cons place places ih => exact (ih (gate.act place)).trans (settle_act gate place)

/-- Each caller has acted in the end knowing whether all before it have left. -/
theorem settleFrom_getElem? (free : Bool) (gate : Gate) (place : Nat) :
    (settleFrom free gate)[place]? = gate[place]?.map
      (acted (free && ((settleFrom free gate).take place).all Caller.finished)) := by
  induction gate generalizing place free with
  | nil => rfl
  | cons c rest ih =>
    cases place with
    | zero => simp [settleFrom_cons]
    | succ place =>
      rw [settleFrom_cons, List.getElem?_cons_succ, List.getElem?_cons_succ, ih,
        List.take_succ_cons, List.all_cons]
      cases free with
      | false => rfl
      | true => rw [finished_acted_iff, ← Bool.and_assoc]

theorem clear_iff : gate.Clear place ↔ (gate.take place).all Caller.finished = true := by
  rw [List.all_eq_true]
  constructor
  · intro h d hd
    obtain ⟨i, hi, rfl⟩ := List.mem_iff_getElem.1 hd
    rw [List.length_take] at hi
    rw [List.getElem_take]
    exact h i _ (by omega) (List.getElem?_eq_getElem (by omega))
  · intro h i d hi hd
    refine h d (List.mem_iff_getElem?.2 ⟨i, ?_⟩)
    rw [List.getElem?_take_of_lt hi, hd]

/-- The lock may as well be said to be handed to a caller that has left. -/
theorem acted_handed (hc : gate[place]? = some c) :
    acted (gate.handed == some place) c =
      acted ((gate.take place).all Caller.finished) c := by
  cases hfinished : c.finished with
  | true => rw [acted_of_finished hfinished, acted_of_finished hfinished]
  | false =>
    congr 1
    rw [Bool.eq_iff_iff, beq_iff_eq, handed_iff hc, clear_iff]
    exact and_iff_left hfinished

theorem act_middle (before rest : Gate) (c : Caller) :
    act (before ++ c :: rest) before.length =
      before ++ acted (before.all Caller.finished) c :: rest := by
  have hc : (before ++ c :: rest)[before.length]? = some c := by simp
  have hacted := acted_handed hc
  rw [List.take_left] at hacted
  unfold act
  rw [List.modify_eq_take_drop, List.take_left, List.drop_left, ← hacted]
  rfl

/-- All come to the same as if they act one after the other as they have entered. -/
theorem acts_range (before rest : Gate) :
    acts (before ++ rest) (List.range' before.length rest.length) =
      before ++ settleFrom (before.all Caller.finished) rest := by
  induction rest generalizing before with
  | nil => simp [acts, settleFrom]
  | cons c rest ih =>
    let c' := acted (before.all Caller.finished) c
    have hfree : (before ++ [c']).all Caller.finished =
        (before.all Caller.finished && c'.turn != .holding) := by
      rw [List.all_append, List.all_cons, List.all_nil, Bool.and_true]
      cases hbefore : before.all Caller.finished with
      | false => rfl
      | true =>
        have hc' : c' = acted true c := by rw [← hbefore]
        rw [hc', finished_acted_iff]
    have hrest := ih (before ++ [c'])
    rw [hfree, List.length_append, List.append_assoc, List.append_assoc] at hrest
    show acts (act (before ++ c :: rest) before.length) _ = _
    rw [act_middle]
    exact hrest

theorem settle_eq_acts (gate : Gate) :
    gate.settle = gate.acts (List.range gate.length) := by
  have h := acts_range [] gate
  rw [List.range_eq_range']
  exact h.symm

theorem quiet_settle (gate : Gate) : gate.settle.Quiet := by
  intro place
  refine List.ext_getElem? fun i => ?_
  rw [act_getElem?]
  cases hd : gate.settle[i]? with
  | none => rfl
  | some d =>
    simp only [Option.map_some, Option.some.injEq, ite_eq_right_iff]
    rintro rfl
    rw [acted_handed hd]
    have hsettled := (settleFrom_getElem? true gate place).symm.trans hd
    rw [Bool.true_and] at hsettled
    obtain ⟨c, -, rfl⟩ := Option.map_eq_some_iff.1 hsettled
    exact acted_acted id

/-- Once no caller can do anything more, all have come to the same, in whatever order they acted. -/
theorem acts_eq_settle {places : List Nat} (h : (gate.acts places).Quiet) :
    gate.acts places = gate.settle := by
  have hstill (places' : List Nat) : (gate.acts places).acts places' = gate.acts places := by
    induction places' with
    | nil => rfl
    | cons place places' ih => exact (congrArg (acts · places') (h place)).trans ih
  rw [← settle_acts gate places, settle_eq_acts (gate.acts places), hstill]

/-! ## Steps -/

/-- What happens at a gate. Between two steps of another kind any callers may act, or none. -/
inductive Step
  | enter (name : String) (cancelled : Bool)
  | cancel (name : String)
  | release (name : String)
  | act (place : Nat)

def step (gate : Gate) : Step → Gate
  | .enter name cancelled => gate.enter name cancelled
  | .cancel name => gate.cancel name
  | .release name => gate.release name
  | .act place => gate.act place

def run (gate : Gate) (steps : List Step) : Gate := steps.foldl step gate

/-- What a step makes of the caller at a place. -/
def Step.change (gate : Gate) (place : Nat) (c : Caller) : Step → Caller
  | .enter _ _ => c
  | .cancel name => if c.name = name then { c with givesUp := true } else c
  | .release name => if c.name = name then { c with releases := true } else c
  | .act acting => if acting = place then acted (gate.handed == some place) c else c

/-- The caller that comes with a step. -/
def Step.entrant : Step → Option Caller
  | .enter name cancelled => some ⟨name, .waiting, cancelled, false⟩
  | _ => none

theorem step_getElem? (gate : Gate) (s : Step) (place : Nat) :
    (gate.step s)[place]? = match gate[place]? with
      | some c => some (s.change gate place c)
      | none => if place = gate.length then s.entrant else none := by
  cases s with
  | enter name cancelled =>
    show (gate ++ [_])[place]? = _
    rw [List.getElem?_append]
    split
    · rename_i hplace
      rw [List.getElem?_eq_getElem hplace]
      rfl
    · rename_i hplace
      rw [List.getElem?_eq_none (Nat.le_of_not_lt hplace), List.getElem?_singleton]
      have hsame : place - gate.length = 0 ↔ place = gate.length := by omega
      simp only [hsame]
      rfl
  | cancel name | release name =>
    refine List.getElem?_map.trans ?_
    cases gate[place]? with
    | none => simp [Step.entrant]
    | some c => rfl
  | act acting =>
    refine (act_getElem? gate acting place).trans ?_
    cases gate[place]? with
    | none => simp [Step.entrant]
    | some c =>
      by_cases hacting : acting = place
      · subst hacting
        simp [Step.change]
      · simp [Step.change, hacting]

theorem step_of_getElem? (s : Step) (hc : gate[place]? = some c) :
    (gate.step s)[place]? = some (s.change gate place c) := by
  rw [step_getElem?, hc]

/-- A caller has been there before a step, or has come with it. -/
theorem of_step_getElem? {s : Step} {d : Caller} (h : (gate.step s)[place]? = some d) :
    (∃ c, gate[place]? = some c ∧ d = s.change gate place c) ∨
      place = gate.length ∧ s.entrant = some d := by
  rw [step_getElem?] at h
  cases hc : gate[place]? with
  | some c =>
    rw [hc] at h
    exact .inl ⟨c, rfl, (Option.some.inj h).symm⟩
  | none =>
    rw [hc] at h
    dsimp only at h
    split at h
    · rename_i hplace
      exact .inr ⟨hplace, h⟩
    · cases h

theorem entrant_waiting {s : Step} {d : Caller} (h : s.entrant = some d) : d.turn = .waiting := by
  cases s with
  | enter name cancelled =>
    obtain rfl := Option.some.inj h
    rfl
  | cancel _ | release _ | act _ => cases h

theorem turn_change_of_finished (s : Step) (h : c.finished) :
    (s.change gate place c).turn = c.turn := by
  cases s with
  | enter _ _ => rfl
  | cancel _ | release _ =>
    unfold Step.change
    dsimp only
    split <;> rfl
  | act _ =>
    unfold Step.change
    dsimp only
    split
    · rw [acted_of_finished h]
    · rfl

/-! ## The order of callers -/

/-- Each caller that has been let in has nobody waiting before it. -/
def InOrder (gate : Gate) : Prop :=
  ∀ place c, gate[place]? = some c → c.admitted → gate.Clear place

theorem InOrder.step (h : gate.InOrder) (s : Step) : (gate.step s).InOrder := by
  intro place d hd hadmitted
  rcases of_step_getElem? hd with ⟨c, hc, rfl⟩ | ⟨-, hentrant⟩
  · have hclear : gate.Clear place := by
      have hcases : c.admitted ∨ gate.handed = some place := by
        cases s with
        | enter _ _ => exact .inl hadmitted
        | cancel _ | release _ =>
          unfold Step.change at hadmitted
          dsimp only at hadmitted
          split at hadmitted <;> exact .inl hadmitted
        | act acting =>
          unfold Step.change at hadmitted
          dsimp only at hadmitted
          split at hadmitted
          · exact (admitted_or_has hadmitted).imp_right eq_of_beq
          · exact .inl hadmitted
      exact hcases.elim (h place c hc) fun hhanded => ((handed_iff hc).1 hhanded).1
    intro i d hi hd
    rcases of_step_getElem? hd with ⟨c', hc', rfl⟩ | ⟨rfl, -⟩
    · have hfinished := hclear i c' hi hc'
      unfold Caller.finished
      rw [turn_change_of_finished s hfinished]
      exact hfinished
    · have hlast := (List.getElem?_eq_some_iff.1 hc).1
      exact absurd hlast (Nat.lt_asymm hi)
  · have hwaits := entrant_waiting hentrant
    unfold Caller.admitted at hadmitted
    rw [hwaits] at hadmitted
    cases hadmitted

theorem inOrder_run (steps : List Step) : (run [] steps).InOrder := by
  have hrun (gate : Gate) (h : gate.InOrder) : (gate.run steps).InOrder := by
    induction steps generalizing gate with
    | nil => exact h
    | cons s steps ih => exact ih (gate.step s) (h.step s)
  exact hrun [] fun place c hc => by cases hc

theorem InOrder.holders_length (h : gate.InOrder) : gate.holders.length ≤ 1 := by
  have hpairs : gate.Pairwise fun c d => d.admitted → c.finished := by
    refine List.pairwise_iff_getElem.2 fun i j hi hj hij hadmitted => ?_
    exact h j _ (List.getElem?_eq_getElem hj) hadmitted i _ hij (List.getElem?_eq_getElem hi)
  have hholding (c : Caller) (hc : c ∈ gate.filter fun c => c.turn == .holding) :
      c.turn = .holding := eq_of_beq (List.mem_filter.1 hc).2
  have hpair := hpairs.filter fun c => c.turn == .holding
  unfold holders
  rw [List.length_map]
  generalize gate.filter (fun c => c.turn == .holding) = holding at hpair hholding ⊢
  -- of two callers that hold the gate the first would have left
  match holding with
  | [] => exact Nat.zero_le _
  | [_] => exact Nat.le_refl _
  | c :: d :: rest =>
    have hc := hholding c List.mem_cons_self
    have hd := hholding d (List.mem_cons_of_mem _ List.mem_cons_self)
    have hfinished := (List.pairwise_cons.1 hpair).1 d List.mem_cons_self
      (by simp [Caller.admitted, hd])
    simp [Caller.finished, hc] at hfinished

/-- The first caller that has not left acts, unless it holds the gate. -/
theorem not_waiting_of_quiet (h : gate.Quiet) (hfree : gate.holders = []) :
    ∀ c ∈ gate, c.turn ≠ .waiting := by
  intro c hc hwaits
  have hunfinished : c.finished = false := by
    unfold Caller.finished
    rw [hwaits]
    rfl
  have hsome : gate.handed.isSome := by
    unfold handed
    rw [List.findIdx?_isSome, List.any_eq_true]
    exact ⟨c, hc, by rw [hunfinished]; rfl⟩
  obtain ⟨place, hplace⟩ := Option.isSome_iff_exists.1 hsome
  obtain ⟨hlt, hfirst, -⟩ := List.findIdx?_eq_some_iff_getElem.1 hplace
  have hd : gate[place]? = some gate[place] := List.getElem?_eq_getElem hlt
  generalize gate[place] = d at hd hfirst
  have hacts := h.acted hd
  rw [hplace, beq_self_eq_true] at hacts
  have hholds : d.turn = .holding := by
    have hdone := finished_acted_iff (c := d)
    rw [hacts] at hdone
    rw [hdone] at hfirst
    simpa using hfirst
  have hmem : d.name ∈ gate.holders :=
    List.mem_map.2 ⟨d, List.mem_filter.2 ⟨List.mem_of_getElem? hd, by simp [hholds]⟩, rfl⟩
  rw [hfree] at hmem
  cases hmem

/-! ## Callers that are cancelled in time -/

/-- The caller at a place is not let in, and has been cancelled once all have acted. -/
def Refuses (gate : Gate) (place : Nat) : Prop :=
  ∃ c, gate[place]? = some c ∧ c.admitted = false ∧ (gate.Quiet → c.turn = .cancelled)

/-- The caller has been cancelled, or will be. -/
def Lost (c : Caller) : Prop := c.withdrawn ∨ c.turn = .cancelled

theorem lost_acted {has : Bool} (h : Lost c) : (acted has c).turn = .cancelled := by
  obtain ⟨name, turn, givesUp, releases⟩ := c
  cases turn <;> cases givesUp <;> rcases h with h | h <;> first | rfl | cases h

theorem Lost.change (h : Lost c) (s : Step) : Lost (s.change gate place c) := by
  cases s with
  | enter _ _ => exact h
  | cancel _ =>
    unfold Step.change
    dsimp only
    split
    · refine h.imp_left fun hwithdrawn => ?_
      rw [Caller.withdrawn, Bool.and_eq_true] at hwithdrawn ⊢
      exact ⟨hwithdrawn.1, rfl⟩
    · exact h
  | release _ =>
    unfold Step.change
    dsimp only
    split <;> exact h
  | act _ =>
    unfold Step.change
    dsimp only
    split
    · exact .inr (lost_acted h)
    · exact h

/-- A caller that has been cancelled in time is refused, whatever happens then. -/
theorem refuses_run (hc : gate[place]? = some c) (h : Lost c) (steps : List Step) :
    (gate.run steps).Refuses place := by
  induction steps generalizing gate c with
  | nil =>
    refine ⟨c, hc, ?_, fun hquiet => ?_⟩
    · rcases h with h | h
      · unfold Caller.withdrawn at h
        unfold Caller.admitted
        cases hturn : c.turn <;> rw [hturn] at h <;> first | rfl | cases h
      · unfold Caller.admitted
        rw [h]
        rfl
    · rw [← hquiet.acted hc]
      exact lost_acted h
  | cons s steps ih => exact ih (step_of_getElem? s hc) (h.change s)

/-! ## Callers that do not notice a cancellation -/

/-- The names of the callers and where they stand. -/
def turns (gate : Gate) : List (String × Turn) := gate.map fun c => (c.name, c.turn)

/-- Two callers are alike but for what one of them has been told too late. -/
structure Alike (c d : Caller) : Prop where
  name : c.name = d.name
  turn : c.turn = d.turn
  releases : c.releases = d.releases
  givesUp : c.turn = .waiting → c.givesUp = d.givesUp

theorem Alike.refl (c : Caller) : Alike c c := ⟨rfl, rfl, rfl, fun _ => rfl⟩

theorem Alike.acted {d : Caller} (h : Alike c d) (has : Bool) :
    Alike (acted has c) (acted has d) := by
  obtain ⟨name, turn, givesUp, releases⟩ := c
  obtain ⟨name', turn', givesUp', releases'⟩ := d
  obtain ⟨rfl, rfl, rfl, hgives⟩ := h
  cases turn with
  | waiting =>
    obtain rfl : givesUp = givesUp' := hgives rfl
    exact .refl _
  | holding | released | cancelled => cases releases <;> exact ⟨rfl, rfl, rfl, nofun⟩

/-- Two gates with callers that are alike. -/
def AllAlike (gate gate' : Gate) : Prop :=
  ∀ place : Nat, Option.Rel Alike gate[place]? gate'[place]?

variable {gate' : Gate}

theorem AllAlike.length (h : AllAlike gate gate') : gate.length = gate'.length := by
  refine Nat.le_antisymm (List.getElem?_eq_none_iff.1 ?_) (List.getElem?_eq_none_iff.1 ?_)
  · have hend := h gate'.length
    rw [List.getElem?_eq_none (Nat.le_refl gate'.length)] at hend
    cases hplace : gate[gate'.length]? with
    | none => rfl
    | some c =>
      rw [hplace] at hend
      cases hend
  · have hend := h gate.length
    rw [List.getElem?_eq_none (Nat.le_refl gate.length)] at hend
    cases hplace : gate'[gate.length]? with
    | none => rfl
    | some c =>
      rw [hplace] at hend
      cases hend

/-- What callers are alike in is the same for all callers of both gates. -/
theorem AllAlike.map {α : Type} {f : Caller → α} (h : AllAlike gate gate')
    (hf : ∀ c d, Alike c d → f c = f d) : gate.map f = gate'.map f := by
  refine List.ext_getElem? fun place => ?_
  rw [List.getElem?_map, List.getElem?_map]
  have hplace := h place
  generalize gate[place]? = o at hplace ⊢
  generalize gate'[place]? = o' at hplace ⊢
  cases hplace with
  | none => rfl
  | some halike => exact congrArg some (hf _ _ halike)

theorem AllAlike.handed (h : AllAlike gate gate') : gate.handed = gate'.handed := by
  have hfinished := h.map (f := Caller.finished) fun c d halike => by
    unfold Caller.finished
    rw [halike.turn]
  have hmap (gate : Gate) : gate.handed = (gate.map Caller.finished).findIdx? (!·) := by
    rw [List.findIdx?_map]
    rfl
  rw [hmap, hmap, hfinished]

theorem AllAlike.change {c d : Caller} (h : AllAlike gate gate') (halike : Alike c d) (s : Step) :
    Alike (s.change gate place c) (s.change gate' place d) := by
  cases s with
  | enter _ _ => exact halike
  | cancel name =>
    unfold Step.change
    dsimp only
    rw [halike.name]
    split
    · exact ⟨rfl, halike.turn, halike.releases, fun _ => rfl⟩
    · exact halike
  | release name =>
    unfold Step.change
    dsimp only
    rw [halike.name]
    split
    · exact ⟨rfl, halike.turn, rfl, halike.givesUp⟩
    · exact halike
  | act _ =>
    unfold Step.change
    dsimp only
    rw [h.handed]
    split
    · exact halike.acted _
    · exact halike

theorem AllAlike.step (h : AllAlike gate gate') (s : Step) :
    AllAlike (gate.step s) (gate'.step s) := by
  intro place
  rw [step_getElem?, step_getElem?, h.length]
  have hplace := h place
  generalize gate[place]? = o at hplace ⊢
  generalize gate'[place]? = o' at hplace ⊢
  cases hplace with
  | none =>
    generalize (if place = gate'.length then s.entrant else none) = entrant
    cases entrant with
    | none => exact .none
    | some c => exact .some (.refl c)
  | some halike => exact .some (h.change halike s)

/-- Callers that have been told too late never notice. -/
theorem AllAlike.turns_run (h : AllAlike gate gate') (steps : List Step) :
    (gate.run steps).turns = (gate'.run steps).turns := by
  induction steps generalizing gate gate' with
  | nil => exact h.map fun c d halike => by rw [halike.name, halike.turn]
  | cons s steps ih => exact ih (h.step s)

theorem allAlike_cancel {name : String} (h : ∀ c ∈ gate, c.name = name → c.turn ≠ .waiting) :
    AllAlike (gate.cancel name) gate := by
  intro place
  have hcancel : (gate.cancel name)[place]? =
      gate[place]?.map fun c => if c.name = name then { c with givesUp := true } else c :=
    List.getElem?_map
  rw [hcancel]
  cases hc : gate[place]? with
  | none => exact .none
  | some c =>
    refine .some ?_
    dsimp only
    split
    · rename_i hname
      exact ⟨rfl, rfl, rfl, fun hwaits => absurd hwaits (h c (List.mem_of_getElem? hc) hname)⟩
    · exact .refl c

/-! ## Fairness -/

/-- What holds of a gate at any time. -/
structure Fair (gate : Gate) : Prop where
  /-- At most one caller holds the gate. -/
  exclusive : gate.holders.length ≤ 1
  /-- Once all have acted, no one waits for a gate that nobody holds. -/
  used : gate.Quiet → gate.holders = [] → ∀ c ∈ gate, c.turn ≠ .waiting
  /-- No one is let in before someone who entered earlier and waits. -/
  ordered : ∀ (i j : Nat) (c d : Caller), i < j → gate[i]? = some c → gate[j]? = some d →
    d.admitted → c.turn ≠ .waiting
  /-- Who is cancelled while waiting is not let in, whether the gate was free, had been handed to
  it, or neither. -/
  refused : ∀ (place : Nat) (c : Caller), gate[place]? = some c → c.turn = .waiting →
    ∀ steps, ((gate.cancel c.name).run steps).Refuses place
  /-- Who enters with a context that has been cancelled is not let in. -/
  refusedAtOnce : ∀ name steps, ((gate.enter name true).run steps).Refuses gate.length
  /-- When all before a waiting caller leave, those cancelled among them, it is let in. -/
  next : ∀ (place : Nat) (c : Caller), gate[place]? = some c → c.turn = .waiting →
    c.givesUp = false → (∀ (i : Nat) (d : Caller), i < place → gate[i]? = some d → d.leaves) →
      ∀ places, (gate.acts places).Quiet → ∃ d, (gate.acts places)[place]? = some d ∧
        d.turn = if c.releases then .released else .holding
  /-- To cancel those who do not wait changes nothing, then and later. -/
  unnoticed : ∀ name, (∀ c ∈ gate, c.name = name → c.turn ≠ .waiting) → ∀ steps,
    ((gate.cancel name).run steps).turns = (gate.run steps).turns
  /-- The callers can act until none can do more, and come to the same in any order. -/
  settles : (∃ places, gate.acts places = gate.settle) ∧ gate.settle.Quiet ∧
    ∀ places, (gate.acts places).Quiet → gate.acts places = gate.settle

/-- When all before a caller leave, it acts with the lock handed to it. -/
theorem next_settle (hc : gate[place]? = some c)
    (hbefore : ∀ (i : Nat) (d : Caller), i < place → gate[i]? = some d → d.leaves) :
    gate.settle[place]? = some (acted true c) := by
  have hall : (gate.settle.take place).all Caller.finished = true := by
    rw [← clear_iff]
    intro i d hi hd
    have hsettled := (settleFrom_getElem? true gate i).symm.trans hd
    obtain ⟨before, hbefore', rfl⟩ := Option.map_eq_some_iff.1 hsettled
    exact finished_acted (hbefore i before hi hbefore')
  have hsettled := settleFrom_getElem? true gate place
  unfold settle at hall ⊢
  rw [hsettled, hall, hc]
  rfl

/-- Whatever steps have been made, the gate is fair. -/
theorem fair_run (steps : List Step) : (run [] steps).Fair := by
  have hinOrder := inOrder_run steps
  generalize run [] steps = gate at hinOrder
  refine ⟨hinOrder.holders_length, not_waiting_of_quiet, ?_, ?_, ?_, ?_, ?_, ?_⟩
  · intro i j c d hij hc hd hadmitted hwaits
    have hfinished := hinOrder j d hd hadmitted i c hij hc
    unfold Caller.finished at hfinished
    rw [hwaits] at hfinished
    cases hfinished
  · intro place c hc hwaits steps
    have hcancelled := step_of_getElem? (.cancel c.name) hc
    have hlost : Lost (Step.change gate place c (.cancel c.name)) := by
      unfold Step.change
      dsimp only
      rw [if_pos rfl]
      exact .inl (by rw [Caller.withdrawn, hwaits]; rfl)
    exact refuses_run hcancelled hlost steps
  · intro name steps
    have hentered : (gate.enter name true)[gate.length]? = some ⟨name, .waiting, true, false⟩ := by
      unfold enter
      exact List.getElem?_concat_length
    exact refuses_run hentered (.inl rfl) steps
  · intro place c hc hwaits hstays hbefore places hquiet
    refine ⟨acted true c, ?_, turn_acted hwaits hstays⟩
    rw [acts_eq_settle hquiet]
    exact next_settle hc hbefore
  · exact fun name hname steps => (allAlike_cancel hname).turns_run steps
  · exact ⟨⟨_, (settle_eq_acts gate).symm⟩, quiet_settle gate, fun places => acts_eq_settle⟩

/-- The gate has been handed to the second caller, which is cancelled before it acts. -/
example : (run [] [.enter "a" false, .act 0, .enter "b" false, .enter "c" false, .release "a",
    .act 0, .cancel "b", .act 2, .act 1, .act 2]).turns =
      [("a", .released), ("b", .cancelled), ("c", .holding)] := by decide

end Gate

end AccessControl
