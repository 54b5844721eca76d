/-
Runs of the reader of expressions through a group. A text that makes one group when it stands alone
between brackets can stand at any place of an expression: the reader goes through it to the bracket
after it, and adds one part to what it has read (`Reads.through`). The two runs are compared step by
step; they open and close the same groups (`Beside`) until the bracket. Alone the group cannot end
before the bracket, since what follows it would stand beside the group (`Mixed`).
-/
import AccessControl.Proofs.Regex.Tokens

namespace AccessControl.Regex.Parser

/-- From the state the reader makes a part of the text. -/
inductive Reads : State → List Char → Part → Prop
  | finish {s : State} {cs : List Char} {part : Part} (hskip : s.flags.skip cs = [])
      (hfinish : finish? s = some part) : Reads s cs part
  | step {s t : State} {cs more rest : List Char} {c : Char} {part : Part}
      (hskip : s.flags.skip cs = c :: more) (hstep : step? s c more = some (t, rest))
      (next : Reads t rest part) : Reads s cs part

theorem reads_of_readFrom {fuel : Nat} {s : State} {cs : List Char} {part : Part}
    (h : readFrom fuel s cs = some part) : Reads s cs part := by
  induction fuel generalizing s cs with
  | zero => cases h
  | succ fuel ih =>
    unfold readFrom at h
    split at h
    · rename_i hskip
      exact .finish hskip h
    · rename_i c more hskip
      split at h
      · rename_i t rest hstep
        exact .step hskip hstep (ih h)
      · cases h

theorem finish?_outer {s : State} {part : Part} (h : finish? s = some part) :
    s.outer = [] ∧ part = s.level.close := by
  unfold finish? at h
  split at h
  · rename_i houter
    exact ⟨List.isEmpty_iff.1 houter, (Option.some.inj h).symm⟩
  · cases h

theorem step?_token {s t : State} {c : Char} {cs rest : List Char}
    (h : step? s c cs = some (t, rest)) :
    ∃ token, token? s.flags c cs = some (token, rest) ∧ token.act? s = some t := by
  rw [step?_eq] at h
  obtain ⟨⟨token, more⟩, htoken, hact⟩ := Option.bind_eq_some_iff.1 h
  obtain ⟨t', ht, heq⟩ := Option.map_eq_some_iff.1 hact
  cases heq
  exact ⟨token, htoken, ht⟩

theorem repeat?_some {s t : State} {min : Nat} {max : Option Nat}
    (h : repeat? s min max = some t) : ∃ part branch, s.level.branch = part :: branch ∧
      t = { s with level := { s.level with
        branch := ⟨.repeated part.node min max, part.depth + 1, true⟩ :: branch } } := by
  unfold repeat? at h
  split at h
  · cases h
  · rename_i part branch hbranch
    split at h
    · exact ⟨part, branch, hbranch, (Option.some.inj h).symm⟩
    · cases h

/-- The state after the innermost group, in which `s` was read, has ended. -/
def State.closed (s : State) (back : Return) (outer : List Return) : State :=
  { s with flags := back.flags, level := back.level, outer := outer }.push
    ⟨.group back.number s.level.close.node, s.level.close.depth + 1, true⟩

theorem closeGroup?_some {s t : State} (h : closeGroup? s = some t) :
    ∃ back outer, s.outer = back :: outer ∧ t = s.closed back outer := by
  unfold closeGroup? at h
  split at h
  · cases h
  · rename_i level flags number outer houter
    exact ⟨⟨level, flags, number⟩, outer, houter, (Option.some.inj h).symm⟩

/-! ## Parts beside a group -/

/-- The part is a group, which no sign repeats or joins to others. -/
def Part.IsGroup (part : Part) : Prop :=
  match part.node with
  | .group _ _ => True
  | _ => False

/-- Something has been read at the level. -/
def Level.Begun (level : Level) : Prop := level.branches ≠ [] ∨ level.branch ≠ []

/-- What has been read at the level is not a single group, and whatever follows it never will be. -/
def Level.Mixed (level : Level) : Prop :=
  level.branches ≠ [] ∨ 2 ≤ level.branch.length ∨
    ∃ part : Part, level.branch = [part] ∧ ¬ part.IsGroup

theorem Level.Mixed.begun {level : Level} (h : level.Mixed) : level.Begun := by
  rcases h with hbranches | hlength | ⟨part, hbranch, -⟩
  · exact .inl hbranches
  · exact .inr fun hnil => by simp [hnil] at hlength
  · exact .inr fun hnil => by simp [hnil] at hbranch

theorem sequence_ungrouped {nodes : List Node} (h : 2 ≤ nodes.length) (depth : Nat)
    (repeatable : Bool) : ¬ Part.IsGroup ⟨.sequence nodes, depth, repeatable⟩ := by
  match nodes, h with
  | _ :: _ :: _, _ => exact id

theorem anyOf_ungrouped {nodes : List Node} (h : 2 ≤ nodes.length) (depth : Nat)
    (repeatable : Bool) : ¬ Part.IsGroup ⟨.anyOf nodes, depth, repeatable⟩ := by
  match nodes, h with
  | _ :: _ :: _, _ => exact id

theorem Level.Mixed.close {level : Level} (h : level.Mixed) : ¬ level.close.IsGroup := by
  obtain ⟨branches, branch⟩ := level
  cases branches with
  | cons => exact anyOf_ungrouped (by simp) _ true
  | nil =>
    rcases h with hbranches | hlength | ⟨part, hbranch, hpart⟩
    · exact absurd rfl hbranches
    · match branch, hlength with
      | _ :: _ :: _, _ => exact sequence_ungrouped (by simp) _ true
    · cases hbranch
      exact hpart

/-- Something has been read outside of all groups, an open one counted with the level around it. -/
def State.Begun (s : State) : Prop :=
  match s.outer.getLast? with
  | none => s.level.Begun
  | some back => back.level.Begun

/-- The whole is not a single group, whatever follows. -/
def State.Mixed (s : State) : Prop :=
  match s.outer.getLast? with
  | none => s.level.Mixed
  | some back => back.level.Begun

theorem State.Mixed.begun {s : State} (h : s.Mixed) : s.Begun := by
  unfold State.Mixed at h
  unfold State.Begun
  split at h
  · exact h.begun
  · exact h

/-- A step that opens or ends no group adds to what has been read at its level. -/
theorem State.Begun.added {s t : State} (h : s.Begun) (houter : t.outer = s.outer)
    (hlevel : s.level.Begun → t.level.Mixed) : t.Mixed := by
  unfold State.Begun at h
  unfold State.Mixed
  rw [houter]
  split at h
  · exact hlevel h
  · exact h

theorem State.Begun.opened {s t : State} {back : Return} (h : s.Begun)
    (houter : t.outer = back :: s.outer) (hback : back.level = s.level) : t.Mixed := by
  unfold State.Begun at h
  unfold State.Mixed
  rw [houter, List.getLast?_cons]
  cases hlast : s.outer.getLast? with
  | none =>
    rw [hlast] at h
    show back.level.Begun
    rw [hback]
    exact h
  | some last =>
    rw [hlast] at h
    exact h

theorem Level.Begun.beside {level : Level} (h : level.Begun) (part : Part) :
    Level.Mixed ⟨level.branches, part :: level.branch⟩ := by
  rcases h with hbranches | hbranch
  · exact .inl hbranches
  · exact .inr (.inl (Nat.succ_le_succ (List.length_pos_iff.2 hbranch)))

/-- Whatever a step adds to what has been read stands beside it. -/
theorem State.Begun.acted {s t : State} {token : Token} (h : s.Begun)
    (hact : token.act? s = some t) : t.Mixed := by
  cases token with
  | part node depth =>
    cases hact
    exact h.added rfl fun hlevel => hlevel.beside _
  | flags new =>
    cases hact
    exact h.added rfl fun hlevel => hlevel.beside _
  | repetition min max =>
    obtain ⟨part, branch, hbranch, rfl⟩ := repeat?_some hact
    refine h.added rfl fun _ => ?_
    cases branch with
    | nil => exact .inr (.inr ⟨_, rfl, id⟩)
    | cons => exact .inr (.inl (Nat.succ_le_succ (Nat.succ_le_succ (Nat.zero_le _))))
  | alternative =>
    cases hact
    exact h.added rfl fun _ => .inl (List.cons_ne_nil _ _)
  | opening new =>
    cases hact
    exact h.opened rfl rfl
  | numbered name =>
    cases name with
    | none =>
      cases hact
      exact h.opened rfl rfl
    | some name =>
      unfold Token.act? at hact
      dsimp only at hact
      split at hact
      · cases hact
      · cases hact
        exact h.opened rfl rfl
  | closing =>
    obtain ⟨back, outer, houter, rfl⟩ := closeGroup?_some hact
    -- the group comes beside what had begun around it before it was opened
    unfold State.Begun at h
    rw [houter, List.getLast?_cons] at h
    show (match outer.getLast? with
      | none => Level.Mixed ⟨back.level.branches, _ :: back.level.branch⟩
      | some back => back.level.Begun)
    cases hlast : outer.getLast? with
    | none =>
      rw [hlast] at h
      exact Level.Begun.beside h _
    | some last =>
      rw [hlast] at h
      exact h

theorem Reads.ungrouped {s : State} {cs : List Char} {part : Part} (h : Reads s cs part)
    (hs : s.Mixed) : ¬ part.IsGroup := by
  induction h with
  | finish hskip hfinish =>
    obtain ⟨houter, rfl⟩ := finish?_outer hfinish
    unfold State.Mixed at hs
    rw [houter] at hs
    exact hs.close
  | step hskip hstep next ih =>
    obtain ⟨token, -, hact⟩ := step?_token hstep
    exact ih (hs.begun.acted hact)

/-! ## Two runs through one group -/

/-- What the group that opens in a state comes back to. -/
def State.back (s : State) : Return := ⟨s.level, s.flags, none⟩

/-- Two states in a group that has been opened in `x` and in `y`: inside of it the same groups are
open, as far as their flags show. -/
structure Beside (x y a b : State) : Prop where
  flags : a.flags = b.flags
  outer : ∃ inner inner' : List Return, a.outer = inner ++ x.back :: x.outer ∧
    b.outer = inner' ++ y.back :: y.outer ∧ inner.map Return.flags = inner'.map Return.flags

/-- The parts have been added to what was read in `x`. -/
def Adds (x : State) (parts : List Part) (s : State) : Prop :=
  s.level = ⟨x.level.branches, parts.reverse ++ x.level.branch⟩ ∧ s.flags = x.flags ∧
    s.outer = x.outer

variable {x y a b a' b' : State}

theorem beside_openGroup (x y : State) (flags : Flags) :
    Beside x y (openGroup x flags) (openGroup y flags) := ⟨rfl, [], [], rfl, rfl, rfl⟩

theorem Beside.alone (h : Beside x y a b) : Beside x x a a :=
  let ⟨inner, _, houter, _, _⟩ := h.outer
  ⟨rfl, inner, inner, houter, houter, rfl⟩

/-- A group is open, so the text cannot end. -/
theorem Beside.not_reads_nil {part : Part} {cs : List Char} (h : Beside x y a b)
    (hcs : a.flags.skip cs = []) : ¬ Reads a cs part := by
  obtain ⟨inner, inner', houter, -, -⟩ := h.outer
  intro hread
  cases hread with
  | finish hskip hfinish =>
    rw [(finish?_outer hfinish).1] at houter
    simp at houter
  | step hskip _ _ =>
    rw [hcs] at hskip
    cases hskip

theorem Beside.stays (h : Beside x y a b) (hflags : a'.flags = b'.flags) (ha : a'.outer = a.outer)
    (hb : b'.outer = b.outer) : Beside x y a' b' := by
  obtain ⟨-, inner, inner', houter, houter', hinner⟩ := h
  exact ⟨hflags, inner, inner', ha.trans houter, hb.trans houter', hinner⟩

theorem Beside.opens {back back' : Return} (h : Beside x y a b) (hflags : a'.flags = b'.flags)
    (hback : back.flags = back'.flags) (ha : a'.outer = back :: a.outer)
    (hb : b'.outer = back' :: b.outer) : Beside x y a' b' := by
  obtain ⟨-, inner, inner', houter, houter', hinner⟩ := h
  refine ⟨hflags, back :: inner, back' :: inner', ?_, ?_, ?_⟩
  · rw [ha, houter, List.cons_append]
  · rw [hb, houter', List.cons_append]
  · rw [List.map_cons, List.map_cons, hinner, hback]

/-- The same token leads to states in the group again, or it ends the group. -/
theorem Beside.acted {token : Token} (h : Beside x y a b) (ha : token.act? a = some a')
    (hb : token.act? b = some b') : Beside x y a' b' ∨
      token = .closing ∧ (∃ part, Adds x [part] a') ∧ ∃ part, Adds y [part] b' := by
  cases token with
  | part node depth =>
    cases ha
    cases hb
    exact .inl (h.stays h.flags rfl rfl)
  | flags new =>
    cases ha
    cases hb
    exact .inl (h.stays rfl rfl rfl)
  | repetition min max =>
    obtain ⟨-, -, -, rfl⟩ := repeat?_some ha
    obtain ⟨-, -, -, rfl⟩ := repeat?_some hb
    exact .inl (h.stays h.flags rfl rfl)
  | alternative =>
    cases ha
    cases hb
    exact .inl (h.stays h.flags rfl rfl)
  | opening new =>
    cases ha
    cases hb
    exact .inl (h.opens rfl h.flags rfl rfl)
  | numbered name =>
    cases name with
    | none =>
      cases ha
      cases hb
      exact .inl (h.opens h.flags h.flags rfl rfl)
    | some name =>
      unfold Token.act? at ha hb
      dsimp only at ha hb
      split at ha
      · cases ha
      · split at hb
        · cases hb
        · cases ha
          cases hb
          exact .inl (h.opens h.flags h.flags rfl rfl)
  | closing =>
    obtain ⟨-, inner, inner', houter, houter', hinner⟩ := h
    obtain ⟨back, outer, hopen, rfl⟩ := closeGroup?_some ha
    obtain ⟨back', outer', hopen', rfl⟩ := closeGroup?_some hb
    rw [houter] at hopen
    rw [houter'] at hopen'
    -- a group inside ends in both runs, or the group itself does
    rcases inner with _ | ⟨first, inner⟩ <;> rcases inner' with _ | ⟨first', inner'⟩
    · cases hopen
      cases hopen'
      exact .inr ⟨rfl, ⟨_, rfl, rfl, rfl⟩, _, rfl, rfl, rfl⟩
    · cases hinner
    · cases hinner
    · cases hopen
      cases hopen'
      obtain ⟨hback, hinner⟩ := List.cons.inj hinner
      exact .inl ⟨hback, inner, inner', rfl, rfl, hinner⟩

/-- After a single group nothing may follow. -/
theorem Adds.ungrouped {p part : Part} {cs : List Char} (h : Adds .initial [p] a) (hcs : cs ≠ [])
    (hread : Reads a cs part) : ¬ part.IsGroup := by
  obtain ⟨hlevel, hflags, houter⟩ := h
  have hbegun : a.Begun := by
    unfold State.Begun
    rw [houter, hlevel]
    exact .inr (List.cons_ne_nil _ _)
  cases hread with
  | finish hskip _ =>
    rw [hflags] at hskip
    exact absurd hskip hcs
  | step _ hstep next =>
    obtain ⟨token, -, hact⟩ := step?_token hstep
    exact next.ungrouped (hbegun.acted hact)

/-- A text that is one group alone is one part at any other place. -/
theorem Reads.through {cs u v : List Char} {part part' : Part} (halone : Reads a cs part)
    (hcs : cs = u ++ [')']) (hpart : part.IsGroup) (h : Beside .initial y a b)
    (hread : Reads b (u ++ ')' :: v) part') : ∃ p s, Adds y [p] s ∧ Reads s v part' := by
  induction halone generalizing b u with
  | finish hskip hfinish => exact absurd (.finish hskip hfinish) (h.not_reads_nil hskip)
  | @step a a' cs more rest c part hskip hstep next ih =>
    subst hcs
    rcases a.flags.skip_append u with ⟨-, hhidden⟩ | hw
    · rw [hhidden [] List.not_mem_nil] at hskip
      cases hskip
    rw [hw] at hskip
    obtain ⟨token, htoken, ha⟩ := step?_token hstep
    cases hread with
    | finish hskip' _ =>
      rw [← h.flags, hw] at hskip'
      simp at hskip'
    | @step _ b' _ more' rest' c' _ hskip' hstep' next' =>
      rw [← h.flags, hw] at hskip'
      obtain ⟨token', htoken', hb⟩ := step?_token hstep'
      rw [← h.flags] at htoken'
      cases htext : a.flags.skip u with
      | nil =>
        -- the bracket after the text, which ends the group or one inside of it
        rw [htext] at hskip hskip'
        cases hskip
        cases hskip'
        cases htoken
        cases htoken'
        rcases h.acted ha hb with hinside | ⟨-, -, p, hadds⟩
        · exact absurd next (hinside.not_reads_nil (Flags.skip_nil _))
        · exact ⟨p, b', hadds, next'⟩
      | cons d w =>
        rw [htext] at hskip hskip'
        cases hskip
        cases hskip'
        rcases token?_before htoken with hnil | ⟨w', hw', hagree⟩
        · -- no text is left, so that the step has passed over the bracket
          cases hnil
          rcases h.alone.acted ha ha with hinside | ⟨rfl, -, -⟩
          · exact absurd next (hinside.not_reads_nil (Flags.skip_nil _))
          · exact absurd (token?_closing htoken).2 (by simp)
        · cases hw'
          cases (hagree v).symm.trans htoken'
          rcases h.acted ha hb with hinside | ⟨-, ⟨p, hadds⟩, -⟩
          · exact ih rfl hpart hinside next'
          · -- alone the group would end before the text does
            exact absurd hpart (hadds.ungrouped (by simp) next)

end AccessControl.Regex.Parser
