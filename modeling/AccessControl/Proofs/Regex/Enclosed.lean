/-
Expressions alone and in a group. The reader goes through a text in a group as it goes through the
text alone (`Reads.enclosed`), unless the text ends in a comment, which hides the bracket that ends
the group; and what it can read in the group it can read alone (`Reads.alone`), unless the text has
a bracket that ends no group of its own (`strays`).
-/
import AccessControl.Proofs.Regex.Written

namespace AccessControl.Regex.Parser

open Leaves (rest leave)

/-! ## Runs, step by step -/

section

variable {s t : State} {c : Char} {cs more rest : List Char} {part : Part}

theorem reads_step (hskip : s.flags.skip cs = c :: more) (hstep : step? s c more = some (t, rest)) :
    Reads s cs part ↔ Reads t rest part := by
  constructor
  · intro h
    cases h with
    | finish hskip' _ => cases hskip.symm.trans hskip'
    | step hskip' hstep' next =>
      cases hskip.symm.trans hskip'
      cases hstep.symm.trans hstep'
      exact next
  · exact fun next => .step hskip hstep next

theorem not_reads (hskip : s.flags.skip cs = c :: more) (hstep : step? s c more = none) :
    ¬ Reads s cs part := by
  intro h
  cases h with
  | finish hskip' _ => cases hskip.symm.trans hskip'
  | step hskip' hstep' _ =>
    cases hskip.symm.trans hskip'
    cases hstep.symm.trans hstep'

theorem reads_end (hskip : s.flags.skip cs = []) :
    Reads s cs part ↔ s.outer = [] ∧ part = s.level.close := by
  constructor
  · intro h
    cases h with
    | finish _ hfinish => exact finish?_outer hfinish
    | step hskip' _ _ => cases hskip.symm.trans hskip'
  · rintro ⟨houter, rfl⟩
    exact .finish hskip (by rw [finish?, houter]; rfl)

theorem step?_suffix (h : step? s c cs = some (t, rest)) : rest <:+ cs := by
  obtain ⟨token, htoken, -⟩ := step?_token h
  exact token?_suffix htoken

/-- A bracket ends a group only if one is open. -/
theorem open_of_step (h : step? s c cs = some (t, rest)) : c = ')' → s.outer ≠ [] := by
  rintro rfl houter
  simp [step?, closeGroup?, houter] at h

/-- The reader has enough steps for the whole text. -/
theorem Reads.readFrom {n : Nat} (h : Reads s cs part) (hn : cs.length < n) :
    readFrom n s cs = some part := by
  induction h generalizing n with
  | finish hskip hfinish =>
    obtain ⟨n, rfl⟩ : ∃ k, n = k + 1 := ⟨n - 1, by omega⟩
    rw [Parser.readFrom, hskip]
    exact hfinish
  | @step s t cs more rest c part hskip hstep next ih =>
    obtain ⟨n, rfl⟩ : ∃ k, n = k + 1 := ⟨n - 1, by omega⟩
    have hle := s.flags.length_skip_le cs
    rw [hskip, List.length_cons] at hle
    have hrest := (step?_suffix hstep).length_le
    simp only [Parser.readFrom, hskip, hstep]
    exact ih (by omega)

theorem reads_iff : Reads s cs part ↔ readFrom (cs.length + 1) s cs = some part :=
  ⟨fun h => h.readFrom (Nat.lt_succ_self _), reads_of_readFrom⟩

/-- Only the end of a group leaves no group open. -/
theorem closing_of_outer {token : Token} (hact : token.act? s = some t) (ht : t.outer = [])
    (hs : s.outer ≠ []) : token = .closing := by
  cases token with
  | closing => rfl
  | part node depth =>
    cases hact
    exact absurd ht hs
  | flags new =>
    cases hact
    exact absurd ht hs
  | repetition min max =>
    obtain ⟨_, _, _, rfl⟩ := repeat?_some hact
    exact absurd ht hs
  | alternative =>
    cases hact
    exact absurd ht hs
  | opening new =>
    cases hact
    cases ht
  | numbered name =>
    cases name with
    | none =>
      cases hact
      cases ht
    | some name =>
      unfold Token.act? at hact
      dsimp only at hact
      split at hact
      · cases hact
      · cases hact
        cases ht

/-- A group that is open has to be closed. -/
theorem Reads.closes (h : Reads s cs part) (houter : s.outer ≠ []) : ')' ∈ cs := by
  induction h with
  | finish _ hfinish => exact absurd (finish?_outer hfinish).1 houter
  | @step s t cs more rest c part hskip hstep next ih =>
    have htext : c :: more <:+ cs := hskip ▸ s.flags.skip_suffix cs
    obtain ⟨token, htoken, hact⟩ := step?_token hstep
    by_cases hopen : t.outer ≠ []
    · have hrest : rest <:+ cs :=
        (token?_suffix htoken).trans ((List.suffix_cons c more).trans htext)
      exact hrest.subset (ih hopen)
    · cases closing_of_outer hact (Decidable.not_not.1 hopen) houter
      rw [(token?_closing htoken).1] at htext
      exact htext.subset List.mem_cons_self

end

/-! ## States in a group -/

/-- The state with groups open around it. -/
def State.inside (s : State) (around : List Return) : State :=
  { s with outer := s.outer ++ around }

theorem act?_inside (s : State) (around : List Return) {token : Token}
    (h : token = .closing → s.outer ≠ []) :
    token.act? (s.inside around) = (token.act? s).map (·.inside around) := by
  cases token with
  | part node depth => rfl
  | flags new => rfl
  | repetition min max =>
    show repeat? (s.inside around) min max = (repeat? s min max).map (·.inside around)
    unfold repeat? State.inside
    dsimp only
    split
    · rfl
    · split <;> rfl
  | alternative => rfl
  | opening new => rfl
  | numbered name =>
    cases name with
    | none => rfl
    | some name =>
      unfold Token.act? State.inside
      dsimp only
      split <;> rfl
  | closing =>
    show closeGroup? (s.inside around) = (closeGroup? s).map (·.inside around)
    unfold closeGroup? State.inside
    dsimp only
    cases houter : s.outer with
    | nil => exact absurd houter (h rfl)
    | cons back outer => rfl

/-- A step does in a group what it does outside of it, unless it ends the group. -/
theorem step?_inside {s : State} {c : Char} (h : c = ')' → s.outer ≠ []) (around : List Return)
    (cs : List Char) :
    step? (s.inside around) c cs = (step? s c cs).map fun r => (r.1.inside around, r.2) := by
  rw [step?_eq, step?_eq]
  show token? s.flags c cs >>= Token.acted? (s.inside around) = _
  cases htoken : token? s.flags c cs with
  | none => rfl
  | some r =>
    obtain ⟨token, rest⟩ := r
    have hact : token.act? (s.inside around) = (token.act? s).map (·.inside around) := by
      refine act?_inside s around ?_
      rintro rfl
      exact h (token?_closing htoken).1
    simp only [Option.bind_eq_bind, Option.bind_some, Token.acted?, hact, Option.map_map]
    rfl

/-- What is read after a step of the text is read after it in a group. -/
theorem reads_inside {s t : State} {c : Char} {cs more rest : List Char} {around : List Return}
    {part : Part} (hskip : s.flags.skip cs = c :: more) (hstep : step? s c more = some (t, rest))
    (h : c = ')' → s.outer ≠ []) :
    Reads (s.inside around) cs part ↔ Reads (t.inside around) rest part := by
  have hinside : step? (s.inside around) c more = some (t.inside around, rest) := by
    rw [step?_inside h, hstep]
    rfl
  exact reads_step (s := s.inside around) hskip hinside

theorem step?_agrees {s : State} {c : Char} {u : List Char}
    (h : ¬ (c = '\\' ∧ Escape.Stuck s.flags u)) : AgreesAt [] (step? s c) u := by
  have hacted (b : Token × List Char) : Local [] fun r => Token.acted? s (leave r b) := by
    obtain ⟨token, r⟩ := b
    show Local [] fun r => (token.act? s).map (·, r)
    cases token.act? s with
    | none => exact .none
    | some t => exact .answer t
  exact ((token?_agrees h).bind hacted).congr (List.suffix_refl u) (step?_eq s c u)
    fun v => step?_eq s c _

theorem not_stuck {s t : State} {c : Char} {u rest : List Char}
    (h : step? s c u = some (t, rest)) : ¬ (c = '\\' ∧ Escape.Stuck s.flags u) := by
  rintro ⟨rfl, more, rfl, hhangs⟩
  rw [step?_eq, (token?_stuck hhangs).1] at h
  cases h

/-! ## From a text alone to the text in a group -/

/-- The text ends in a comment. -/
def Hidden (s : State) (back : Return) (u : List Char) (part : Part) : Prop :=
  ∀ v, '\n' ∉ v → Reads s (u ++ ')' :: v) part ∧
    ∀ whole, ¬ Reads (s.inside [back]) (u ++ ')' :: v) whole

/-- The bracket after the text ends the group around it. -/
def Exposed (s : State) (back : Return) (u : List Char) (part : Part) : Prop :=
  ∃ t : State, t.level.close = part ∧ ∀ v whole, ¬ Reads s (u ++ ')' :: v) whole ∧
    (Reads (s.inside [back]) (u ++ ')' :: v) whole ↔ Reads (t.closed back []) v whole)

/-- At the end of the text a bracket is in a comment, or ends the group around the text. -/
theorem enclosed_end {s : State} {u : List Char} (hskip : s.flags.skip u = [])
    (houter : s.outer = []) (back : Return) :
    Hidden s back u s.level.close ∨ Exposed s back u s.level.close := by
  rcases s.flags.skip_append u with ⟨-, hhidden⟩ | hsame
  · refine .inl fun v hv => ⟨(reads_end (hhidden v hv)).2 ⟨houter, rfl⟩, fun whole hread => ?_⟩
    have hclosed := ((reads_end (s := s.inside [back]) (hhidden v hv)).1 hread).1
    simp [State.inside] at hclosed
  · rw [hskip] at hsame
    have hstep (v : List Char) : step? s ')' v = none := by simp [step?, closeGroup?, houter]
    have hclose (v : List Char) :
        step? (s.inside [back]) ')' v = some (s.closed back [], v) := by
      simp [step?, closeGroup?, State.inside, houter, State.closed]
    exact .inr ⟨s, rfl, fun v whole => ⟨not_reads (hsame v) (hstep v),
      reads_step (s := s.inside [back]) (hsame v) (hclose v)⟩⟩

/-- What is a part alone is one in a group, if the bracket that ends the group is not hidden. -/
theorem Reads.enclosed {s : State} {u : List Char} {part : Part} (h : Reads s u part)
    (back : Return) : Hidden s back u part ∨ Exposed s back u part := by
  induction h with
  | finish hskip hfinish =>
    obtain ⟨houter, rfl⟩ := finish?_outer hfinish
    exact enclosed_end hskip houter back
  | @step s t u more rest c part hskip hstep next ih =>
    have hlonger (v : List Char) := Flags.skip_longer hskip v
    have hends := open_of_step hstep
    cases step?_agrees (not_stuck hstep) with
    | same b _ hread hmore =>
      cases hread.symm.trans hstep
      have halone (v : List Char) (whole : Part) :
          Reads s (u ++ ')' :: v) whole ↔ Reads t (rest ++ ')' :: v) whole :=
        reads_step (hlonger v) (hmore v)
      have hgroup (v : List Char) (whole : Part) : Reads (s.inside [back]) (u ++ ')' :: v) whole ↔
          Reads (t.inside [back]) (rest ++ ')' :: v) whole :=
        reads_inside (hlonger v) (hmore v) hends
      rcases ih with hhidden | ⟨e, hclose, hexposed⟩
      · exact .inl fun v hv => ⟨(halone v part).2 (hhidden v hv).1, fun whole hwhole =>
          (hhidden v hv).2 whole ((hgroup v whole).1 hwhole)⟩
      · exact .inr ⟨e, hclose, fun v whole => ⟨fun hwhole =>
          (hexposed v whole).1 ((halone v whole).1 hwhole),
            (hgroup v whole).trans (hexposed v whole).2⟩⟩
    | hidden b hrest hread hmore =>
      -- the step passes over the bracket in a comment, and nothing is left to end the group with
      cases hread.symm.trans hstep
      cases hrest
      refine .inl fun v hv => ⟨(reads_step (hlonger v) (hmore v hv)).2 next, fun whole hwhole => ?_⟩
      have hlast := (reads_inside (hlonger v) (hmore v hv) hends).1 hwhole
      have houter := ((reads_end (s := t.inside [back]) (Flags.skip_nil _)).1 hlast).1
      simp [State.inside] at houter
    | failed hread _ => cases hread.symm.trans hstep

/-! ## From a text in a group to the text alone -/

/-- Whether the reader meets a bracket that ends a group when none is open. -/
def straysFrom : Nat → State → List Char → Bool
  | 0, _, _ => false
  | fuel + 1, s, cs =>
    match s.flags.skip cs with
    | [] => false
    | c :: rest =>
      (c == ')' && s.outer.isEmpty) ||
        match step? s c rest with
        | some (s, rest) => straysFrom fuel s rest
        | none => false

theorem Reads.not_inside {s : State} {back : Return} {cs : List Char} {whole : Part}
    (h : Reads (s.inside [back]) cs whole) : ')' ∈ cs :=
  h.closes (by simp [State.inside])

/-- After an edge that only the bracket makes one comes a brace without bounds. -/
theorem stuck_fails {s t : State} {back : Return} {cs v rest : List Char} {whole : Part}
    (h : step? s '\\' ('b' :: '\x7b' :: cs ++ ')' :: v) = some (t, rest))
    (hhangs : Escape.Hangs s.flags cs) : ¬ Reads (t.inside [back]) rest whole := by
  obtain ⟨-, node, hedge⟩ := token?_stuck hhangs
  rw [step?_eq, hedge v] at h
  cases h
  have hcounts : s.flags.Counts '\x7b' := by
    intro cs
    unfold Flags.skip
    split <;> rfl
  have hbounds : bounds? s.flags (cs ++ ')' :: v) = none := bounds?_close (hhangs.2 v)
  refine not_reads (hcounts _) ?_
  rw [step?_eq]
  show (bounds? s.flags (cs ++ ')' :: v)).map _ >>= _ = none
  rw [hbounds]
  rfl

/-- After the last bracket of a text no group of the text is open: it would have to be closed. -/
theorem outer_of_last {s t : State} {back : Return} {v rest : List Char} {whole : Part}
    (hstep : step? (s.inside [back]) ')' v = some (t, rest)) (h : Reads t rest whole)
    (hlast : ')' ∉ v) : s.outer = [] := by
  refine Decidable.byContradiction fun houter => ?_
  rw [step?_inside fun _ => houter] at hstep
  obtain ⟨⟨_, _⟩, hopen, heq⟩ := Option.map_eq_some_iff.1 hstep
  cases heq
  exact hlast ((step?_suffix hopen).subset h.not_inside)

/-- A step that does not take the last bracket is one of the text before it: with the bracket the
group could not be closed. -/
theorem step_before {s t : State} {back : Return} {c : Char} {u v rest : List Char} {whole : Part}
    (hstep : step? s c (u ++ ')' :: v) = some (t, rest)) (h : Reads (t.inside [back]) rest whole)
    (hline : '\n' ∉ v) (hlast : ')' ∉ v) :
    ∃ left, left <:+ u ∧ step? s c u = some (t, left) ∧ rest = left ++ ')' :: v := by
  by_cases hstuck : c = '\\' ∧ Escape.Stuck s.flags u
  · obtain ⟨rfl, more, rfl, hhangs⟩ := hstuck
    exact absurd h (stuck_fails hstep hhangs)
  cases step?_agrees hstuck with
  | same b hrest hread hmore =>
    cases (hmore v).symm.trans hstep
    exact ⟨_, hrest, hread, rfl⟩
  | hidden b hrest hread hmore =>
    cases (hmore v hline).symm.trans hstep
    have hclose := h.not_inside
    cases hrest
    cases hclose
  | failed hread hmore => exact absurd ((hmore v _ hline hstep).subset h.not_inside) hlast

/-- What can be read in a group whose bracket is the last of the text can be read alone. -/
theorem Reads.alone {n : Nat} {s a : State} {back : Return} {u v cs : List Char} {whole : Part}
    (h : Reads a cs whole) (ha : a = s.inside [back]) (hcs : cs = u ++ ')' :: v) (hline : '\n' ∉ v)
    (hlast : ')' ∉ v) (hn : u.length < n) (hstray : straysFrom n s u = false) :
    ∃ part, Reads s u part := by
  induction h generalizing n s u with
  | finish hskip hfinish =>
    have houter := (finish?_outer hfinish).1
    rw [ha] at houter
    simp [State.inside] at houter
  | @step a t' cs more' rest' c part hskip hstep next ih =>
    subst ha hcs
    obtain ⟨n, rfl⟩ : ∃ k, n = k + 1 := ⟨n - 1, by omega⟩
    -- the text goes on as it does alone, or with the bracket
    rcases s.flags.skip_append u with ⟨-, hhidden⟩ | hsame
    · cases (hhidden v hline).symm.trans hskip
    have hskip : s.flags.skip (u ++ ')' :: v) = c :: more' := hskip
    rw [hsame v] at hskip
    cases htext : s.flags.skip u with
    | nil =>
      rw [htext] at hskip
      cases hskip
      exact ⟨_, (reads_end htext).2 ⟨outer_of_last hstep next hlast, rfl⟩⟩
    | cons d more =>
      rw [htext] at hskip
      cases hskip
      simp only [straysFrom, htext, Bool.or_eq_false_iff, Bool.and_eq_false_iff] at hstray
      obtain ⟨hends, hrun⟩ := hstray
      have hends : c = ')' → s.outer ≠ [] := by
        rintro rfl houter
        simp [houter] at hends
      have hlength : more.length < n := by
        have hle := s.flags.length_skip_le u
        rw [htext, List.length_cons] at hle
        omega
      rw [step?_inside hends] at hstep
      obtain ⟨⟨t, rest⟩, ht, heq⟩ := Option.map_eq_some_iff.1 hstep
      cases heq
      obtain ⟨left, hshort, hread, rfl⟩ := step_before ht next hline hlast
      rw [hread] at hrun
      obtain ⟨part, hpart⟩ := ih rfl rfl (Nat.lt_of_le_of_lt hshort.length_le hlength) hrun
      exact ⟨part, (reads_step htext hread).2 hpart⟩

/-! ## Between anchors -/

/-- Whether a bracket of the text ends no group of the text. -/
def strays (cs : List Char) : Bool := straysFrom (cs.length + 1) .initial cs

/-- The text as one part, however deep it nests. -/
def whole? (cs : List Char) : Option Part := readFrom (cs.length + 1) .initial cs

theorem whole?_iff {cs : List Char} {part : Part} :
    whole? cs = some part ↔ Reads .initial cs part := reads_iff.symm

theorem Reads.straysFrom {s : State} {cs : List Char} {part : Part} (h : Reads s cs part)
    (n : Nat) : straysFrom n s cs = false := by
  induction h generalizing n with
  | finish hskip _ =>
    cases n with
    | zero => rfl
    | succ n => simp [Parser.straysFrom, hskip]
  | @step s t cs more rest c part hskip hstep next ih =>
    cases n with
    | zero => rfl
    | succ n =>
      have hends : (c == ')' && s.outer.isEmpty) = false := by
        refine Bool.eq_false_iff.2 fun hboth => ?_
        obtain ⟨hc, houter⟩ := Bool.and_eq_true_iff.1 hboth
        exact open_of_step hstep (beq_iff_eq.1 hc) (List.isEmpty_iff.1 houter)
      simp only [Parser.straysFrom, hskip, hstep, hends, Bool.false_or]
      exact ih n

/-- No bracket strays in a text that is read: a text with such a bracket is malformed. -/
theorem strays_of_whole? {cs : List Char} {part : Part} (h : whole? cs = some part) :
    strays cs = false := (whole?_iff.1 h).straysFrom _

theorem whole?_none {cs : List Char} (h : ∀ part, ¬ Reads .initial cs part) : whole? cs = none := by
  cases hread : whole? cs with
  | none => rfl
  | some part => exact absurd (whole?_iff.1 hread) (h part)

/-- With a bracket after it a text is read as before, if the bracket is in a comment, or not. -/
theorem whole?_bracket {cs : List Char} {part : Part} (h : whole? cs = some part) :
    whole? (cs ++ [')']) = none ∨ whole? (cs ++ [')']) = some part := by
  rcases (whole?_iff.1 h).enclosed ⟨⟨[], []⟩, .initial, none⟩ with hhidden | ⟨t, -, hexposed⟩
  · exact .inr (whole?_iff.2 (hhidden [] List.not_mem_nil).1)
  · exact .inl (whole?_none fun part => (hexposed [] part).1)

theorem read?_eq_some {cs : List Char} {node : Node} : read? cs = some node ↔
    ∃ part, whole? cs = some part ∧ part.depth ≤ maxDepth ∧ part.node = node := by
  unfold read? whole?
  cases readFrom (cs.length + 1) .initial cs with
  | none => simp
  | some part =>
    by_cases hdepth : part.depth ≤ maxDepth
    · simp [hdepth]
    · simp [hdepth]

/-- The text in a group, with anchors before and after it. -/
def anchoredText (cs : List Char) : List Char := '^' :: '(' :: '?' :: ':' :: (cs ++ [')', '$'])

/-- The part in a group, with the ends of the text before and after it. -/
def Part.anchored (part : Part) : Part :=
  ⟨.sequence [.look .textStart, .group none part.node, .look .textEnd], part.depth + 2, true⟩

/-- What the group comes back to. -/
def Return.anchor : Return := ⟨⟨[], [⟨.look .textStart, 0, true⟩]⟩, .initial, none⟩

theorem reads_anchoredText {cs : List Char} {whole : Part} :
    Reads .initial (anchoredText cs) whole ↔
      Reads (State.initial.inside [.anchor]) (cs ++ ')' :: ['$']) whole :=
  (reads_step rfl (step?_start rfl _)).trans (reads_step rfl (step?_group rfl _))

theorem reads_anchor {t : State} {whole : Part} :
    Reads (t.closed .anchor []) ['$'] whole ↔ whole = t.level.close.anchored := by
  have hdepth : Nat.max (Nat.max (Nat.max 0 0) (t.level.close.depth + 1)) 0 + 1 =
      t.level.close.depth + 2 := by simp
  rw [reads_step rfl (step?_end rfl _), reads_end (Flags.skip_nil _)]
  show [] = [] ∧
    whole = ⟨_, Nat.max (Nat.max (Nat.max 0 0) (t.level.close.depth + 1)) 0 + 1, true⟩ ↔ _
  rw [hdepth]
  exact ⟨fun h => h.2, fun h => ⟨rfl, h⟩⟩

/-- If no bracket of the text strays, the text between anchors is read if the text alone is, and
the text with a bracket after it is not. -/
theorem whole?_anchoredText {cs : List Char} {whole : Part} (hstray : strays cs = false) :
    whole? (anchoredText cs) = some whole ↔
      ∃ part, whole? cs = some part ∧ whole? (cs ++ [')']) = none ∧ whole = part.anchored := by
  rw [whole?_iff, reads_anchoredText]
  constructor
  · intro hread
    obtain ⟨part, hpart⟩ :=
      hread.alone rfl rfl (by decide) (by decide) (Nat.lt_succ_self _) hstray
    rcases hpart.enclosed .anchor with hhidden | ⟨t, rfl, hexposed⟩
    · exact absurd hread ((hhidden ['$'] (by decide)).2 whole)
    · exact ⟨_, whole?_iff.2 hpart, whole?_none fun part => (hexposed [] part).1,
        reads_anchor.1 ((hexposed ['$'] whole).2.1 hread)⟩
  · rintro ⟨part, hpart, hnone, rfl⟩
    rcases (whole?_iff.1 hpart).enclosed .anchor with hhidden | ⟨t, rfl, hexposed⟩
    · cases hnone.symm.trans (whole?_iff.2 (hhidden [] List.not_mem_nil).1)
    · exact (hexposed ['$'] _).2.2 (reads_anchor.2 rfl)

end AccessControl.Regex.Parser
