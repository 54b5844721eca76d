/-
Names of entities are read as they are composed. Main statements: a text has a word for a kind and a
local name just if it is put together from them (`Urn.path?_eq_some_iff`), a local name without
separators comes back from the name that it is put into (`Urn.name_ofLocal`), none is read off a
text that has separators (`Urn.isLocal_name`), and the name of a user leads back to the number of
its account (`accountOf?_ofAccount`).
-/
import AccessControl.Proofs.Numeral
import AccessControl.Service.Users

namespace AccessControl

namespace Urn

open Text

variable {k : Kind} {text kind name : String}

/-- The text of a word for a kind and a local name. -/
def joined (kind name : String) : String := root ++ (kind ++ "/" ++ name)

theorem text_ofLocal (k : Kind) (name : String) : (ofLocal k name).text = joined k.word name := by
  apply String.toList_inj.1
  simp [ofLocal, compose, joined, toString]

theorem ofLocal_injective {other : String} (h : ofLocal k name = ofLocal k other) :
    name = other := by
  have htext := congrArg (fun u : Urn k => u.text.toList) h
  simp only [text_ofLocal, joined, String.toList_append] at htext
  exact String.toList_inj.1 (List.append_cancel_left (List.append_cancel_left htext))

theorem isLocal_iff (name : String) :
    isLocal name = true ↔ ':' ∉ name.toList ∧ '/' ∉ name.toList := by
  unfold isLocal
  rw [List.all_eq_true]
  constructor
  · intro h
    constructor <;> intro hc <;> simpa using h _ hc
  · rintro ⟨hcolon, hslash⟩ c hc
    rw [Bool.and_eq_true, bne_iff_ne, bne_iff_ne]
    constructor
    · rintro rfl
      exact hcolon hc
    · rintro rfl
      exact hslash hc

/-- The word of a kind has no separator either. -/
theorem isLocal_word (k : Kind) : isLocal k.word = true := by
  cases k <;> decide

/-! ## Pieces between separators -/

/-- A piece between separators holds none of them. -/
theorem not_mem_of_mem_splitOn {a : Char} {cs piece : List Char} (h : piece ∈ cs.splitOn a) :
    a ∉ piece := by
  induction cs generalizing piece with
  | nil =>
    obtain rfl := List.mem_singleton.1 h
    exact List.not_mem_nil
  | cons x cs ih =>
    rw [List.splitOn_cons_eq_if_modifyHead] at h
    split at h
    · rcases List.mem_cons.1 h with rfl | h
      · exact List.not_mem_nil
      · exact ih h
    · rename_i hx
      cases hpieces : cs.splitOn a with
      | nil => exact absurd hpieces (List.splitOn_ne_nil a cs)
      | cons first rest =>
        -- the character goes to the first piece
        rw [hpieces] at h ih
        rcases List.mem_cons.1 h with rfl | h
        · intro ha
          rcases List.mem_cons.1 ha with rfl | ha
          · exact hx (beq_self_eq_true a)
          · exact ih List.mem_cons_self ha
        · exact ih (List.mem_cons_of_mem _ h)

theorem not_mem_of_mem_segments {separator : Char} {piece : String}
    (h : piece ∈ segments separator text) : separator ∉ piece.toList := by
  obtain ⟨cs, hcs, rfl⟩ := List.mem_map.1 h
  rw [String.toList_ofList]
  exact not_mem_of_mem_splitOn hcs

/-- Nothing is cut off a text that has no separator. -/
theorem segments_eq_singleton_iff {separator : Char} {piece : String} :
    segments separator text = [piece] ↔ text = piece ∧ separator ∉ piece.toList := by
  constructor
  · intro h
    have hjoined : [separator].intercalate (text.toList.splitOn separator) = text.toList :=
      List.intercalate_splitOn separator
    obtain ⟨cs, hcs, hpiece⟩ := List.map_eq_singleton_iff.1 h
    have htext : text.toList = cs := by simpa [hcs] using hjoined.symm
    subst hpiece
    constructor
    · rw [← htext, String.ofList_toList]
    · exact not_mem_of_mem_segments (h ▸ List.mem_singleton_self _)
  · rintro ⟨rfl, h⟩
    unfold segments
    rw [List.splitOn_eq_singleton h, List.map_singleton, String.ofList_toList]

/-- Two pieces come of a text with one separator between them. -/
theorem segments_eq_pair_iff {separator : Char} {first second : String} :
    segments separator text = [first, second] ↔
      text.toList = first.toList ++ separator :: second.toList ∧
        separator ∉ first.toList ∧ separator ∉ second.toList := by
  constructor
  · intro h
    have hjoined : [separator].intercalate (text.toList.splitOn separator) = text.toList :=
      List.intercalate_splitOn separator
    obtain ⟨cs, more, hcs, rfl, hmore⟩ := List.map_eq_cons_iff.1 h
    obtain ⟨ds, rfl, rfl⟩ := List.map_eq_singleton_iff.1 hmore
    refine ⟨?_, not_mem_of_mem_segments (h ▸ List.mem_cons_self),
      not_mem_of_mem_segments (h ▸ List.mem_cons_of_mem _ (List.mem_singleton_self _))⟩
    simpa [hcs, List.intercalate] using hjoined.symm
  · rintro ⟨htext, hfirst, hsecond⟩
    unfold segments
    rw [htext, List.splitOn_append_cons_self_of_not_mem hfirst, List.splitOn_eq_singleton hsecond]
    simp

/-! ## Texts that are names -/

/-- The root takes up the first three of the pieces between colons. -/
theorem segments_root (path : String) :
    segments ':' (root ++ path) = "urn" :: "iam" :: "" :: segments ':' path := by
  have htext : (root ++ path).toList =
      "urn".toList ++ ':' :: ("iam".toList ++ ':' :: ([] ++ ':' :: path.toList)) := by
    simp [root]
  unfold segments
  rw [htext, List.splitOn_append_cons_self_of_not_mem (by decide),
    List.splitOn_append_cons_self_of_not_mem (by decide),
    List.splitOn_append_cons_self_of_not_mem (by simp)]
  simp

theorem beginsWith_iff (start : String) :
    beginsWith text start = true ↔ ∃ more, text = start ++ more := by
  unfold beginsWith
  rw [List.isPrefixOf_iff_prefix]
  constructor
  · rintro ⟨more, hmore⟩
    refine ⟨String.ofList more, String.toList_inj.1 ?_⟩
    simp [hmore]
  · rintro ⟨more, rfl⟩
    exact ⟨more.toList, by simp⟩

theorem isName_iff :
    isName text = true ↔ ∃ path, text = root ++ path ∧ segments ':' path = [path] := by
  unfold isName
  rw [Bool.and_eq_true, beginsWith_iff]
  constructor
  · rintro ⟨⟨path, rfl⟩, hlength⟩
    have hone : (segments ':' path).length = 1 := by simpa [segments_root] using hlength
    obtain ⟨piece, hpiece⟩ := List.length_eq_one_iff.1 hone
    obtain ⟨rfl, -⟩ := segments_eq_singleton_iff.1 hpiece
    exact ⟨path, rfl, hpiece⟩
  · rintro ⟨path, rfl, hpath⟩
    exact ⟨⟨path, rfl⟩, by simp [segments_root, hpath]⟩

/-- The pieces of a text that is put together from a word and a local name without separators. -/
theorem segments_joined (hkind : isLocal kind = true) (hname : isLocal name = true) :
    segments ':' (kind ++ "/" ++ name) = [kind ++ "/" ++ name] ∧
      segments '/' (kind ++ "/" ++ name) = [kind, name] := by
  rw [isLocal_iff] at hkind hname
  constructor
  · exact segments_eq_singleton_iff.2 ⟨rfl, by simp [hkind.1, hname.1]⟩
  · exact segments_eq_pair_iff.2 ⟨by simp, hkind.2, hname.2⟩

theorem isName_joined (hkind : isLocal kind = true) (hname : isLocal name = true) :
    isName (joined kind name) = true :=
  isName_iff.2 ⟨_, rfl, (segments_joined hkind hname).1⟩

/-- A text has a word for a kind and a local name just if it is put together from them. -/
theorem path?_eq_some_iff : path? text = some (kind, name) ↔
    text = joined kind name ∧ isLocal kind = true ∧ isLocal name = true := by
  constructor
  · intro h
    unfold path? at h
    split at h
    · rename_i htext
      obtain ⟨path, rfl, hpath⟩ := isName_iff.1 htext
      rw [segments_root, hpath] at h
      simp only [List.getElem?_cons_succ, List.getElem?_cons_zero, Option.map_some] at h
      split at h
      · rename_i first second hparts
        cases h
        obtain ⟨htext, hkind, hname⟩ := segments_eq_pair_iff.1 (Option.some.inj hparts)
        have hfree := (segments_eq_singleton_iff.1 hpath).2
        rw [htext, List.mem_append, List.mem_cons] at hfree
        obtain rfl : path = kind ++ "/" ++ name := String.toList_inj.1 (by simp [htext])
        refine ⟨rfl, (isLocal_iff kind).2 ⟨?_, hkind⟩, (isLocal_iff name).2 ⟨?_, hname⟩⟩
        · exact fun hcolon => hfree (.inl hcolon)
        · exact fun hcolon => hfree (.inr (.inr hcolon))
      · cases h
    · cases h
  · rintro ⟨rfl, hkind, hname⟩
    obtain ⟨hpath, hparts⟩ := segments_joined hkind hname
    unfold path?
    rw [isName_joined hkind hname, if_pos rfl, joined, segments_root, hpath]
    simp [hparts]

/-- The word for the kind is the one that stands before the local name. -/
theorem typeOf_joined (hkind : isLocal kind = true) (hname : isLocal name = true) :
    typeOf (joined kind name) = kind := by
  obtain ⟨hpath, hparts⟩ := segments_joined hkind hname
  unfold typeOf
  rw [isName_joined hkind hname, if_pos rfl, joined, segments_root, hpath]
  simp [hparts]

/-! ## Local names -/

/-- A local name without separators is the local name of the name that it is put into. -/
theorem name_ofLocal (h : isLocal name = true) : (ofLocal k name).name = name := by
  have hword := isLocal_word k
  have hpath := path?_eq_some_iff.2 ⟨rfl, hword, h⟩
  unfold Urn.name isValid localOf
  rw [text_ofLocal, isName_joined hword h, typeOf_joined hword h, hpath]
  simp

/-- A local name that is read off a text has no separator. -/
theorem isLocal_localOf (text : String) : isLocal (localOf text) = true := by
  unfold localOf
  cases hpath : path? text with
  | none => rfl
  | some path => exact (path?_eq_some_iff.1 hpath).2.2

theorem isLocal_name (u : Urn k) : isLocal u.name = true := by
  unfold Urn.name
  split
  · exact isLocal_localOf u.text
  · rfl

/-- The name of a text that names nothing is empty. -/
theorem isValid_of_name (u : Urn k) (h : u.name ≠ "") : u.isValid = true := by
  unfold Urn.name at h
  split at h
  · assumption
  · exact absurd rfl h

/-! ## Names of users -/

theorem isLocal_toString (n : Int) : isLocal (toString n) = true := by
  have hdigit : ∀ c ∈ Nat.toDigits 10 n.natAbs, (c != ':' && c != '/') = true := by
    intro c hc
    have hc : c.isDigit = true := Nat.isDigit_of_mem_toDigits (by omega) (by omega) hc
    have hcolon : c ≠ ':' := by rintro rfl; exact absurd hc (by decide)
    have hslash : c ≠ '/' := by rintro rfl; exact absurd hc (by decide)
    simp [hcolon, hslash]
  unfold isLocal
  rw [toList_toString, List.all_eq_true]
  intro c hc
  split at hc
  · rename_i hn
    have habs : n.toNat = n.natAbs := by omega
    exact hdigit c (habs ▸ hc)
  · rcases List.mem_cons.1 hc with rfl | hc
    · decide
    · have habs : (-n).toNat = n.natAbs := by omega
      exact hdigit c (habs ▸ hc)

theorem ofAccount_injective {a b : Int} (h : ofAccount a = ofAccount b) : a = b :=
  toString_injective (ofLocal_injective h)

theorem ofAccount_text_injective {a b : Int} (h : (ofAccount a).text = (ofAccount b).text) :
    a = b := ofAccount_injective (congrArg Urn.mk h)

end Urn

/-- The name of a user leads back to the number of its account, unless that needs more than 64 bits.
-/
theorem Users.accountOf?_ofAccount (id : Int) :
    accountOf? (Urn.ofAccount id) =
      if -(Nat.pow 2 63 : Int) ≤ id ∧ id < Nat.pow 2 63 then some id else none := by
  unfold accountOf? Urn.ofAccount
  rw [Urn.name_ofLocal (Urn.isLocal_toString id), Text.int64?_toString]

end AccessControl
