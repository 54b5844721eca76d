/-
No calls wait for each other in a circle. Whoever holds a gate waits at most for one of lower rank,
and whoever is first in a line has the gate or is let in, so that in the end someone goes on.
Main statement: while a job has not finished, some job that has not finished goes on with its next
call (`Concourse.someone_proceeds`).
-/
import AccessControl.Proofs.Concurrent.Ranked

namespace AccessControl.Concourse

/-! ## Lines -/

section Lines

variable {line : List Nat} {id other : Nat}

theorem mem_stand : other ∈ stand id line ↔ other ∈ line ∨ other = id := by
  unfold stand
  split
  · rename_i hid
    exact ⟨.inl, fun h => h.elim (fun h => h) fun h => h ▸ hid⟩
  · rw [List.mem_append, List.mem_singleton]

theorem nodup_stand (h : line.Nodup) : (stand id line).Nodup := by
  unfold stand
  split
  · exact h
  · rename_i hid
    refine List.nodup_append.2 ⟨h, List.nodup_singleton _, fun a ha b hb => ?_⟩
    obtain rfl := List.mem_singleton.1 hb
    exact fun heq => hid (heq ▸ ha)

theorem head?_stand (h : line.head? = some other) : (stand id line).head? = some other := by
  unfold stand
  split
  · exact h
  · cases line with
    | nil => cases h
    | cons first rest => exact h

/-- Who comes to a line is the first in it, or someone else has been first before. -/
theorem head?_stand_self (id : Nat) (line : List Nat) :
    (stand id line).head? = some id ∨ ∃ first, line.head? = some first ∧ first ≠ id := by
  cases line with
  | nil => exact .inl rfl
  | cons first rest =>
    by_cases hfirst : first = id
    · exact .inl (head?_stand (congrArg some hfirst))
    · exact .inr ⟨first, rfl, hfirst⟩

theorem head?_erase (h : line.head? = some other) (hne : other ≠ id) :
    (line.erase id).head? = some other := by
  cases line with
  | nil => cases h
  | cons first rest =>
    obtain rfl := Option.some.inj h
    rw [List.erase_cons_tail (by simpa using hne)]
    rfl

end Lines

/-- Nothing but the place of one job changes between two lines. -/
structure Yields (id : Nat) (line line' : List Nat) : Prop where
  nodup : line.Nodup → line'.Nodup
  /-- Nobody else comes. -/
  kept : ∀ other, other ≠ id → other ∈ line' → other ∈ line
  /-- Who was first stays so. -/
  first : ∀ other, other ≠ id → line.head? = some other → line'.head? = some other

section Yields

variable {id : Nat} {line : List Nat}

theorem yields_refl (id : Nat) (line : List Nat) : Yields id line line :=
  ⟨fun h => h, fun _ _ h => h, fun _ _ h => h⟩

theorem yields_stand (id : Nat) (line : List Nat) : Yields id line (stand id line) :=
  ⟨nodup_stand, fun _ hne h => (mem_stand.1 h).resolve_right hne, fun _ _ h => head?_stand h⟩

theorem yields_erase (id : Nat) (line : List Nat) : Yields id line (line.erase id) :=
  ⟨fun h => h.erase id, fun _ _ h => List.mem_of_mem_erase h, fun _ hne h => head?_erase h hne⟩

end Yields

/-! ## Who holds which gates -/

/-- How a job stands before the lines: which gates it holds, in the order in which it will leave
them, and for which it waits. -/
structure Stands (lines : Kind → List Nat) (id : Nat) (gates : List Kind) (o : Option Visit) :
    Prop where
  /-- What is left of the job leaves all gates that it holds. -/
  ranked : ∀ v, o = some v → v.left.Ranked [] gates
  absent : o = none → gates = []
  /-- Gates have been entered in their order. -/
  ordered : gates.Pairwise fun a b => a.rank < b.rank
  /-- Who holds a gate is the first in its line. -/
  first : ∀ gate ∈ gates, (lines gate).head? = some id
  /-- Who is in a line holds the gate or is about to enter it. -/
  placed : ∀ gate, id ∈ lines gate →
    ∃ v, o = some v ∧ (gate ∈ gates ∨ v.left.awaits = some gate)

theorem Stands.held_or_awaits {lines : Kind → List Nat} {id : Nat} {gates : List Kind}
    {o : Option Visit} (h : Stands lines id gates o) {v : Visit} (hv : o = some v) {gate : Kind}
    (hgate : id ∈ lines gate) : gate ∈ gates ∨ v.left.awaits = some gate := by
  obtain ⟨w, hw, hplaced⟩ := h.placed gate hgate
  obtain rfl := Option.some.inj (hv.symm.trans hw)
  exact hplaced

/-- Every job stands before the lines as it should, with the gates that it holds. -/
structure Sound (c : Concourse) (held : Nat → List Kind) : Prop where
  stands : ∀ id, Stands c.lines id (held id) (c.visits id)
  nodup : ∀ gate, (c.lines gate).Nodup

variable {c d : Concourse} {held : Nat → List Kind} {id : Nat} {v : Visit}

theorem sound_start (realm : Realm) : (start realm).Sound fun _ => [] where
  stands _ := ⟨nofun, fun _ => rfl, List.Pairwise.nil, List.forall_mem_nil _, nofun⟩
  nodup _ := List.nodup_nil

/-- One job goes on and changes its places in the lines; all others stand as before. -/
theorem Sound.goOn (h : c.Sound held) (gates : List Kind) {o : Option Visit}
    (hvisits : d.visits = (c.setVisit id o).visits)
    (hlines : ∀ gate, Yields id (c.lines gate) (d.lines gate))
    (hself : Stands d.lines id gates o) : ∃ held, d.Sound held := by
  refine ⟨fun j => if j = id then gates else held j, fun other => ?_, fun gate => ?_⟩
  · rw [hvisits]
    by_cases hne : other = id
    · subst hne
      rw [visits_setVisit, if_pos rfl]
      exact hself
    · rw [visits_setVisit_of_ne o hne, if_neg hne]
      have hother := h.stands other
      refine ⟨hother.ranked, hother.absent, hother.ordered, fun gate hgate => ?_,
        fun gate hgate => ?_⟩
      · exact (hlines gate).first other hne (hother.first gate hgate)
      · exact hother.placed gate ((hlines gate).kept other hne hgate)
  · exact (hlines gate).nodup (h.nodup gate)

/-- A job begins, or its caller gives up: it keeps its places. -/
theorem Sound.setVisit (h : c.Sound held) (hvisits : d.visits = (c.setVisit id (some v)).visits)
    (hlines : d.lines = c.lines) (hranked : v.left.Ranked [] (held id))
    (hplaced : ∀ gate, id ∈ c.lines gate → gate ∈ held id ∨ v.left.awaits = some gate) :
    ∃ held, d.Sound held := by
  refine h.goOn (held id) hvisits (fun gate => hlines ▸ yields_refl id _) ?_
  rw [hlines]
  refine ⟨fun w hw => Option.some.inj hw ▸ hranked, nofun, (h.stands id).ordered,
    (h.stands id).first, fun gate hgate => ?_⟩
  exact ⟨v, rfl, hplaced gate hgate⟩

/-- A job that has not begun is in no line. -/
theorem Sound.begin (h : c.Sound held) (hnone : c.visits id = none) (job : Job) (givenUp : Bool)
    (hvisits : d.visits = (c.setVisit id (some (.ofJob job givenUp))).visits)
    (hlines : d.lines = c.lines) : ∃ held, d.Sound held := by
  have hid := h.stands id
  rw [hnone] at hid
  refine h.setVisit hvisits hlines ?_ fun gate hgate => ?_
  · rw [hid.absent rfl]
    exact job.ranked
  · obtain ⟨v, hv, -⟩ := hid.placed gate hgate
    cases hv

/-! ## Moves -/

theorem yields_setLine (c : Concourse) (id : Nat) (gate : Kind) {line : List Nat}
    (h : Yields id (c.lines gate) line) (k : Kind) :
    Yields id (c.lines k) ((c.setLine gate line).lines k) := by
  rw [lines_setLine]
  split
  · rename_i hk
    exact hk ▸ h
  · exact yields_refl id _

/-- A job that has come to a gate takes a place in its line. -/
theorem Sound.arrive (h : c.Sound held) (hv : c.visits id = some v) {origin : Origin}
    {call : Call} {next : call.Reply → _} (hleft : v.left = .ask origin call next)
    (refused : Bool) : ∃ held, (c.arrive id refused call).Sound held := by
  unfold Concourse.arrive
  split
  · rename_i gate
    split
    · exact ⟨held, h⟩
    · have hid := h.stands id
      rw [hv] at hid
      refine h.goOn (held id) (congrArg Concourse.visits (setVisit_self hv)).symm
        (yields_setLine c id gate (yields_stand id _)) ?_
      refine ⟨hid.ranked, hid.absent, hid.ordered, fun k hk => ?_, fun k hk => ?_⟩
      · have hfirst := hid.first k hk
        rw [lines_setLine]
        split
        · rename_i heq
          exact head?_stand (heq ▸ hfirst)
        · exact hfirst
      · rw [lines_setLine] at hk
        split at hk
        · rename_i heq
          refine ⟨v, rfl, .inr ?_⟩
          rw [hleft, heq]
          rfl
        · exact hid.placed k hk
  · exact ⟨held, h⟩

section Answered

variable {gates : List Kind} {gate : Kind} {origin : Origin} {answer : Type}

theorem ne_of_rank {k : Kind} (h : gate.rank < k.rank) : k ≠ gate := by
  rintro rfl
  exact Nat.lt_irrefl _ h

theorem not_mem_erase (h : c.Sound held) {k : Kind}
    (hk : id ∈ (c.setLine gate ((c.lines gate).erase id)).lines k) :
    k ≠ gate ∧ id ∈ c.lines k := by
  rw [lines_setLine] at hk
  split at hk
  · exact absurd hk (List.Nodup.not_mem_erase (h.nodup gate))
  · rename_i hne
    exact ⟨hne, hk⟩

theorem first_erase {k : Kind} (hne : k ≠ gate) (h : (c.lines k).head? = some id) :
    ((c.setLine gate ((c.lines gate).erase id)).lines k).head? = some id := by
  rw [lines_setLine, if_neg hne]
  exact h

/-- The first in line enters the gate. -/
theorem Sound.entered (h : c.Sound held) (hv : c.visits id = some v)
    {next : Answer Unit → Program (Answer v.job.Result)}
    (hleft : v.left = .ask origin (.enter gate) next)
    (hfirst : (c.lines gate).head? = some id)
    (hvisits : d.visits = (c.setVisit id (some { v with left := next (.ok ()) })).visits)
    (hlines : d.lines = c.lines) : ∃ held, d.Sound held := by
  have hid := h.stands id
  obtain ⟨hrank, hinside, -⟩ := (hleft ▸ hid.ranked v hv).of_enter
  refine h.goOn (gate :: held id) hvisits (fun k => hlines ▸ yields_refl id _) ?_
  rw [hlines]
  refine ⟨fun w hw => ?_, nofun, List.pairwise_cons.2 ⟨hrank, hid.ordered⟩, ?_, fun k hk => ?_⟩
  · obtain rfl := Option.some.inj hw
    exact hinside
  · exact List.forall_mem_cons.2 ⟨hfirst, hid.first⟩
  · refine ⟨_, rfl, .inl ?_⟩
    rcases hid.held_or_awaits hv hk with hmem | hawaits
    · exact List.mem_cons_of_mem _ hmem
    · rw [hleft] at hawaits
      obtain rfl : gate = k := Option.some.inj hawaits
      exact List.mem_cons_self

/-- A caller that is refused at a gate gives up its place before it. -/
theorem Sound.refused (h : c.Sound held) (hv : c.visits id = some v)
    {next : Answer Unit → Program (Answer v.job.Result)}
    (hleft : v.left = .ask origin (.enter gate) next) (failure : Failure)
    (hvisits : d.visits = (c.setVisit id (some { v with left := next (.error failure) })).visits)
    (hlines : d.lines = (c.setLine gate ((c.lines gate).erase id)).lines) :
    ∃ held, d.Sound held := by
  have hid := h.stands id
  obtain ⟨hrank, -, hrefused⟩ := (hleft ▸ hid.ranked v hv).of_enter
  refine h.goOn (held id) hvisits
    (hlines ▸ yields_setLine c id gate (yields_erase id _)) ?_
  rw [hlines]
  refine ⟨fun w hw => ?_, nofun, hid.ordered, fun k hk => ?_, fun k hk => ?_⟩
  · obtain rfl := Option.some.inj hw
    exact hrefused failure
  · exact first_erase (ne_of_rank (hrank k hk)) (hid.first k hk)
  · obtain ⟨hne, hk⟩ := not_mem_erase h hk
    refine ⟨_, rfl, .inl ((hid.held_or_awaits hv hk).resolve_right fun hawaits => ?_)⟩
    rw [hleft] at hawaits
    exact hne (Option.some.inj hawaits).symm

/-- Who leaves a gate gives up its place, which it had as the first in line. -/
theorem Sound.left (h : c.Sound held) (hv : c.visits id = some v)
    {next : Unit → Program (Answer v.job.Result)}
    (hleft : v.left = .ask origin (.leave gate) next)
    (hvisits : d.visits = (c.setVisit id (some { v with left := next () })).visits)
    (hlines : d.lines = (c.setLine gate ((c.lines gate).erase id)).lines) :
    ∃ held, d.Sound held := by
  have hid := h.stands id
  obtain ⟨rest, hrest, hnext⟩ := (hleft ▸ hid.ranked v hv).of_leave
  rw [hrest] at hid
  obtain ⟨hrank, hordered⟩ := List.pairwise_cons.1 hid.ordered
  refine h.goOn rest hvisits
    (hlines ▸ yields_setLine c id gate (yields_erase id _)) ?_
  rw [hlines]
  refine ⟨fun w hw => ?_, nofun, hordered, fun k hk => ?_, fun k hk => ?_⟩
  · obtain rfl := Option.some.inj hw
    exact hnext
  · exact first_erase (ne_of_rank (hrank k hk)) (hid.first k (List.mem_cons_of_mem _ hk))
  · obtain ⟨hne, hk⟩ := not_mem_erase h hk
    refine ⟨_, rfl, .inl ?_⟩
    rcases hid.held_or_awaits hv hk with hmem | hawaits
    · exact (List.mem_cons.1 hmem).resolve_left hne
    · rw [hleft] at hawaits
      cases hawaits

/-- Calls that have nothing to do with gates change nothing before them. -/
theorem Sound.replied (h : c.Sound held) (hv : c.visits id = some v) {call : Call}
    {next : call.Reply → Program (Answer v.job.Result)} (hleft : v.left = .ask origin call next)
    (henter : ∀ gate, call ≠ .enter gate) (hleave : ∀ gate, call ≠ .leave gate)
    (reply : call.Reply)
    (hvisits : d.visits = (c.setVisit id (some { v with left := next reply })).visits)
    (hlines : d.lines = c.lines) : ∃ held, d.Sound held := by
  have hid := h.stands id
  have hnext := (hleft ▸ hid.ranked v hv).of_other henter hleave reply
  refine h.setVisit hvisits hlines hnext fun gate hgate => .inl ?_
  refine (hid.held_or_awaits hv hgate).resolve_right fun hawaits => ?_
  rw [hleft] at hawaits
  cases call with
  | enter gate => exact henter gate rfl
  | _ => cases hawaits

end Answered

/-- A job that comes to its next call keeps everything sound. -/
theorem Sound.proceed (h : c.Sound held) (hv : c.visits id = some v) :
    ∃ held, (c.proceed id v).Sound held := by
  unfold Concourse.proceed
  cases hleft : v.left with
  | done answer => exact ⟨held, h⟩
  | ask origin call next =>
    dsimp only
    obtain ⟨held, h⟩ := h.arrive hv hleft (v.givenUp && origin == .caller)
    rw [← visits_arrive c id (v.givenUp && origin == .caller) call] at hv
    generalize c.arrive id (v.givenUp && origin == .caller) call = c at h hv ⊢
    split
    · rename_i hadmits
      cases call with
      | enter gate =>
        cases hrefused : v.givenUp && origin == .caller with
        | true =>
          have hanswer : c.realm.answer v.givenUp origin (.enter gate) =
              (.error .cancelled, c.realm) := by
            unfold Realm.answer
            rw [hrefused]
            rfl
          rw [hanswer]
          exact h.refused hv hleft .cancelled rfl rfl
        | false =>
          have hanswer : c.realm.answer v.givenUp origin (.enter gate) = (.ok (), c.realm) := by
            unfold Realm.answer
            rw [hrefused]
            rfl
          have hfirst : (c.lines gate).head? = some id := by
            rw [hrefused] at hadmits
            exact eq_of_beq hadmits
          rw [hanswer]
          exact h.entered hv hleft hfirst rfl rfl
      | leave gate => exact h.left hv hleft rfl rfl
      | storage _ | accounts _ | decide _ _ | announce _ =>
        exact h.replied hv hleft nofun nofun _ rfl rfl
    · exact ⟨held, h⟩

/-- Whatever moves, all jobs stand before the lines as they should. -/
theorem Sound.step (h : c.Sound held) (move : Move) : ∃ held, (c.step move).Sound held := by
  cases move with
  | begin id job givenUp =>
    unfold Concourse.step
    dsimp only
    split
    · rename_i hnone
      exact h.begin hnone job givenUp rfl rfl
    · exact ⟨held, h⟩
  | giveUp id =>
    unfold Concourse.step
    dsimp only
    split
    · rename_i v hv
      have hid := h.stands id
      exact h.setVisit (v := { v with givenUp := true }) rfl rfl (hid.ranked v hv)
        fun gate hgate => hid.held_or_awaits hv hgate
    · exact ⟨held, h⟩
  | abandon id =>
    refine h.goOn [] (o := none) rfl (fun gate => yields_erase id _) ?_
    refine ⟨nofun, fun _ => rfl, List.Pairwise.nil, List.forall_mem_nil _, fun gate hgate => ?_⟩
    exact absurd hgate (List.Nodup.not_mem_erase (h.nodup gate))
  | proceed id =>
    unfold Concourse.step
    dsimp only
    split
    · rename_i v hv
      exact h.proceed hv
    · exact ⟨held, h⟩
  | hear place id =>
    unfold Concourse.step
    dsimp only
    split
    · rename_i hnone _
      exact h.begin hnone _ _ rfl rfl
    · exact ⟨held, h⟩
  | outside accounts now => exact ⟨held, h.stands, h.nodup⟩

theorem Sound.run (h : c.Sound held) (moves : List Move) : ∃ held, (c.run moves).Sound held := by
  induction moves generalizing c held with
  | nil => exact ⟨held, h⟩
  | cons move moves ih =>
    obtain ⟨held, h⟩ := h.step move
    exact ih h

/-! ## Progress -/

/-- A job whose next call is not to enter a gate goes on. -/
theorem proceeds_or_awaits (hv : c.visits id = some v) (hunfinished : ¬ v.Done) :
    c.Proceeds id ∨ ∃ gate, v.left.awaits = some gate := by
  cases hleft : v.left with
  | done answer => exact absurd ⟨answer, hleft⟩ hunfinished
  | ask origin call next =>
    cases call with
    | enter gate => exact .inr ⟨gate, rfl⟩
    | _ => exact .inl (proceeds_of_admits hv hleft rfl)

/-- Who waits for a gate goes on, or someone else is the first in its line. -/
theorem proceeds_or_first {gate : Kind} (hv : c.visits id = some v)
    (hawaits : v.left.awaits = some gate) :
    c.Proceeds id ∨ ∃ first, (c.lines gate).head? = some first ∧ first ≠ id := by
  cases hleft : v.left with
  | done answer =>
    rw [hleft] at hawaits
    cases hawaits
  | ask origin call next =>
    rw [hleft] at hawaits
    cases call with
    | enter k =>
      obtain rfl : k = gate := Option.some.inj hawaits
      cases hrefused : v.givenUp && origin == .caller with
      | true =>
        refine .inl (proceeds_of_admits hv hleft ?_)
        rw [hrefused]
        rfl
      | false =>
        refine (head?_stand_self id (c.lines k)).imp_left fun hfirst => ?_
        refine proceeds_of_admits hv hleft ?_
        rw [hrefused]
        show ((c.setLine k (stand id (c.lines k))).lines k).head? == some id
        rw [lines_setLine, if_pos rfl, hfirst]
        exact beq_self_eq_true _
    | _ => cases hawaits

/-- If a job waits for a gate, someone goes on: the job itself, or the first in the line, or someone
for whom that one waits. By induction on the rank of the gate. -/
theorem Sound.proceeds_of_awaits (h : c.Sound held) {n : Nat} {gate : Kind}
    (hn : gate.rank < n) (hv : c.visits id = some v) (hawaits : v.left.awaits = some gate) :
    ∃ id, c.Proceeds id := by
  induction n generalizing gate id v with
  | zero => cases hn
  | succ n ih =>
    rcases proceeds_or_first hv hawaits with hproceeds | ⟨first, hfirst, -⟩
    · exact ⟨id, hproceeds⟩
    · have hmem : first ∈ c.lines gate := List.mem_of_mem_head? hfirst
      obtain ⟨w, hw, hplaced⟩ := (h.stands first).placed gate hmem
      rcases hplaced with hholds | hfirstAwaits
      · -- the first holds the gate, and waits at most for one of lower rank
        have hranked := (h.stands first).ranked w hw
        have hunfinished : ¬ w.Done := by
          rintro ⟨answer, hdone⟩
          rw [hdone] at hranked
          rw [hranked.of_done] at hholds
          cases hholds
        rcases proceeds_or_awaits hw hunfinished with hproceeds | ⟨lower, hlower⟩
        · exact ⟨first, hproceeds⟩
        · have hrank := hranked.rank_lt hlower gate hholds
          exact ih (Nat.lt_of_lt_of_le hrank (Nat.le_of_lt_succ hn)) hw hlower
      · rcases proceeds_or_first hw hfirstAwaits with hproceeds | ⟨other, hother, hne⟩
        · exact ⟨first, hproceeds⟩
        · exact absurd (Option.some.inj (hother.symm.trans hfirst)) hne

/-- While some job has not finished, some job that has not finished goes on with its next call,
whatever jobs have begun and in whatever order they have gone on so far. -/
theorem someone_proceeds (realm : Realm) (moves : List Move) {id : Nat} {v : Visit}
    (hv : ((start realm).run moves).visits id = some v) (hunfinished : ¬ v.Done) :
    ∃ id, ((start realm).run moves).Proceeds id := by
  obtain ⟨held, h⟩ := (sound_start realm).run moves
  rcases proceeds_or_awaits hv hunfinished with hproceeds | ⟨gate, hawaits⟩
  · exact ⟨id, hproceeds⟩
  · exact h.proceeds_of_awaits (Nat.lt_succ_self gate.rank) hv hawaits

/-- A group, and nothing else. -/
def lonelyGroup : Realm :=
  .start (.memory { Storage.Memory.empty with
    groups := [("urn:iam::group/dev", .ofName "dev" none)] }) (.register .empty) 0

/-- A deletion has the gate of users. An addition has the gate of groups and waits for that of
users, and a listing waits for that of groups. -/
def crossing : List Move :=
  [.begin 1 (.wish (.errand (.deleteUser ⟨"urn:iam::user/7"⟩))) false, .proceed 1,
    .begin 2 (.wish (.errand (.addMember ⟨"urn:iam::group/dev"⟩ ⟨"urn:iam::user/7"⟩))) false,
    .proceed 2, .proceed 2, .proceed 2,
    .begin 3 (.wish (.errand .listGroups)) false, .proceed 3]

/-- Two jobs wait, one of them for the other, and still someone goes on. -/
theorem someone_proceeds_crossing :
    (∃ v, ((start lonelyGroup).run crossing).visits 2 = some v ∧ v.left.awaits = some .user) ∧
      (∃ v, ((start lonelyGroup).run crossing).visits 3 = some v ∧
        v.left.awaits = some .group) ∧
      ∃ id, ((start lonelyGroup).run crossing).Proceeds id := by
  have hwaits (id : Nat) (gate : Kind) (h : (((start lonelyGroup).run crossing).visits id).any
      (fun v => v.left.awaits == some gate) = true) :
      ∃ v, ((start lonelyGroup).run crossing).visits id = some v ∧ v.left.awaits = some gate := by
    obtain ⟨v, hv, hawaits⟩ := (Option.any_eq_true _ _).1 h
    exact ⟨v, hv, eq_of_beq hawaits⟩
  obtain ⟨v, hv, hawaits⟩ := hwaits 2 .user (by decide +kernel)
  refine ⟨⟨v, hv, hawaits⟩, hwaits 3 .group (by decide +kernel),
    someone_proceeds lonelyGroup crossing hv ?_⟩
  rintro ⟨answer, hdone⟩
  rw [hdone] at hawaits
  cases hawaits

end AccessControl.Concourse
