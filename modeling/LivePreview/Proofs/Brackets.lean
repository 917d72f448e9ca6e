import LivePreview.Text.Search
/-!
# Texts whose brackets pair up

A reader goes through the text of a rule from left to right and keeps what closes the brackets that
are open. A backslash takes the next character along, and within quotes no bracket counts. A text
that closes what it opens, in the reverse order and nothing else, is closed (`Closed`), and wherever
such a text stands outside of quotes, the reader leaves it as it came (`Closed.read?_eq`). So closed
texts may be put together, and one of them may be put in the place of another.
-/
namespace LivePreview.Style

/-- Where a reader of rules stands. -/
structure Place where
  /-- What closes the brackets that are open, that of the last one first. -/
  opened : List Char
  /-- The quote that is open. -/
  quote : Option Char
  /-- Whether a backslash takes the next character along. -/
  escaped : Bool
  /-- The number of braces that were opened outside of all brackets. -/
  blocks : Nat
deriving DecidableEq, Repr

namespace Place

/-- In front of a text. -/
def start : Place := ⟨[], none, false, 0⟩

/-- What closes a bracket. -/
def closing? (c : Char) : Option Char :=
  if c = '(' then some ')' else if c = '[' then some ']' else if c = '\x7b' then some '\x7d'
  else none

/-- The place behind a bracket. -/
def push (p : Place) (c closing : Char) : Place :=
  { p with
    opened := closing :: p.opened
    blocks := if c = '\x7b' ∧ p.opened = [] then p.blocks + 1 else p.blocks }

/-- The place behind what closes the last bracket. -/
def pop? (p : Place) (c : Char) : Option Place :=
  match p.opened with
  | closing :: rest => if c = closing then some { p with opened := rest } else none
  | [] => none

/-- The place behind a character that is neither within quotes nor taken along. -/
def nextPlain? (p : Place) (c : Char) : Option Place :=
  if c = '"' ∨ c = '\'' then some { p with quote := some c }
  else
    match closing? c with
    | some closing => some (p.push c closing)
    | none => if c = ')' ∨ c = ']' ∨ c = '\x7d' then p.pop? c else some p

/-- The place behind a character; there is none if it closes a bracket other than the last. -/
def next? (p : Place) (c : Char) : Option Place :=
  if p.escaped then some { p with escaped := false }
  else if c = '\\' then some { p with escaped := true }
  else
    match p.quote with
    | some q => some (if c = q then { p with quote := none } else p)
    | none => p.nextPlain? c

def readChars? (p : Place) (s : List Char) : Option Place := s.foldlM next? p

/-- The place behind a text. -/
def read? (p : Place) (t : String) : Option Place := p.readChars? t.toList

/-- Neither within quotes nor behind a backslash. -/
def Plain (p : Place) : Prop := p.quote = none ∧ p.escaped = false

instance (p : Place) : Decidable p.Plain := inferInstanceAs (Decidable (_ ∧ _))

variable {p q : Place} {a b t : String}

theorem readChars?_append (a b : List Char) :
    p.readChars? (a ++ b) = (p.readChars? a).bind fun q => q.readChars? b := by
  rw [readChars?, List.foldlM_append]
  rfl

theorem readChars?_cons (c : Char) (s : List Char) :
    p.readChars? (c :: s) = (p.next? c).bind fun q => q.readChars? s := by
  rw [readChars?, List.foldlM_cons]
  rfl

theorem read?_append (a b : String) : p.read? (a ++ b) = (p.read? a).bind fun q => q.read? b := by
  rw [read?, String.toList_append, readChars?_append]
  rfl

theorem read?_append_of_eq (h : p.read? a = some q) : p.read? (a ++ b) = q.read? b := by
  rw [read?_append, h, Option.bind_some]

/-! ## Reading within brackets -/

/-- A place that is reached by reading a text alone, when the text stands at another place. -/
def within (outer p : Place) : Place :=
  { p with
    opened := p.opened ++ outer.opened
    blocks := if outer.opened = [] then outer.blocks + p.blocks else outer.blocks }

theorem within_start (h : p.Plain) : within p start = p := by
  obtain ⟨opened, quote, escaped, blocks⟩ := p
  obtain ⟨rfl, rfl⟩ : quote = none ∧ escaped = false := h
  simp [within, start]

theorem push_within (outer p : Place) (c closing : Char) :
    (within outer p).push c closing = within outer (p.push c closing) := by
  -- a brace counts as a block only if nothing is open, neither here nor around
  cases hp : p.opened <;> cases ho : outer.opened <;> by_cases hc : c = '\x7b' <;>
    simp [push, within, hp, ho, hc, Nat.add_assoc]

theorem pop?_within {outer : Place} {c : Char} (h : p.pop? c = some q) :
    (within outer p).pop? c = some (within outer q) := by
  cases hp : p.opened with
  | nil => simp [pop?, hp] at h
  | cons closing rest =>
    obtain ⟨rfl, rfl⟩ : c = closing ∧ { p with opened := rest } = q := by simpa [pop?, hp] using h
    simp [pop?, within, hp]

theorem nextPlain?_within (outer : Place) {c : Char} (h : p.nextPlain? c = some q) :
    (within outer p).nextPlain? c = some (within outer q) := by
  rw [nextPlain?] at h ⊢
  split at h
  · rename_i hquote
    obtain rfl := Option.some.inj h
    rw [if_pos hquote]
    rfl
  rename_i hquote
  rw [if_neg hquote]
  cases hc : closing? c with
  | some closing =>
    obtain rfl : p.push c closing = q := by simpa [hc] using h
    simp [push_within]
  | none =>
    simp only [hc] at h ⊢
    split at h
    · rename_i hclose
      rw [if_pos hclose]
      exact pop?_within h
    · rename_i hother
      obtain rfl := Option.some.inj h
      rw [if_neg hother]

/-- What a character does to a place does not depend on what is open around it. -/
theorem next?_within (outer : Place) {c : Char} (h : p.next? c = some q) :
    (within outer p).next? c = some (within outer q) := by
  rw [next?] at h ⊢
  split at h
  · rename_i hescaped
    obtain rfl := Option.some.inj h
    exact if_pos hescaped
  rename_i hescaped
  have hescaped : ¬ (within outer p).escaped = true := hescaped
  rw [if_neg hescaped]
  split at h
  · rename_i hbackslash
    obtain rfl := Option.some.inj h
    exact if_pos hbackslash
  rename_i hbackslash
  rw [if_neg hbackslash]
  cases hq : p.quote with
  | none =>
    rw [hq] at h
    simpa [within, hq] using nextPlain?_within outer h
  | some d =>
    obtain rfl : (if c = d then { p with quote := none } else p) = q := by simpa [hq] using h
    by_cases hd : c = d <;> simp [within, hq, hd]

theorem readChars?_within (outer : Place) {s : List Char} (h : p.readChars? s = some q) :
    (within outer p).readChars? s = some (within outer q) := by
  induction s generalizing p with
  | nil =>
    obtain rfl : p = q := by simpa [readChars?] using h
    rfl
  | cons c s ih =>
    rw [readChars?_cons] at h ⊢
    obtain ⟨r, hr, h⟩ := Option.bind_eq_some_iff.mp h
    rw [next?_within outer hr, Option.bind_some]
    exact ih h

end Place

/-! ## Closed texts -/

/-- Whether a text closes what it opens and nothing else, with a number of blocks outside of all
brackets. -/
def Closed (n : Nat) (t : String) : Prop :=
  Place.start.read? t = some { Place.start with blocks := n }

/-- Whether a text is closed, whatever the number of its blocks. -/
def Complete (t : String) : Prop := ∃ n, Closed n t

/-- Whether a text is closed and has no blocks. -/
abbrev Flat (t : String) : Prop := Closed 0 t

variable {m n : Nat} {p q : Place} {a b t : String}

theorem Complete.of_closed (h : Closed n t) : Complete t := ⟨n, h⟩

/-- **A closed text leaves a place as it found it.** Only blocks outside of all brackets count. -/
theorem Closed.read?_eq (h : Closed n t) (hp : p.Plain) :
    p.read? t = some { p with blocks := if p.opened = [] then p.blocks + n else p.blocks } := by
  -- the place itself is what is around the text, which is read from the start
  have hread := Place.readChars?_within p h
  rw [Place.within_start hp] at hread
  obtain ⟨opened, quote, escaped, blocks⟩ := p
  obtain ⟨rfl, rfl⟩ : quote = none ∧ escaped = false := hp
  exact hread

/-- Within brackets nothing of a closed text counts. -/
theorem Complete.read?_eq (h : Complete t) (hp : p.Plain) (ho : p.opened ≠ []) :
    p.read? t = some p := by
  obtain ⟨n, h⟩ := h
  rw [h.read?_eq hp, if_neg ho]

theorem Flat.read?_eq (h : Flat t) (hp : p.Plain) : p.read? t = some p := by
  rw [Closed.read?_eq h hp]
  simp

theorem Closed.append (ha : Closed m a) (hb : Closed n b) : Closed (m + n) (a ++ b) := by
  rw [Closed, Place.read?_append_of_eq ha, hb.read?_eq ⟨rfl, rfl⟩]
  rfl

theorem Complete.append (ha : Complete a) (hb : Complete b) : Complete (a ++ b) := by
  obtain ⟨m, ha⟩ := ha
  obtain ⟨n, hb⟩ := hb
  exact ⟨m + n, ha.append hb⟩

theorem Flat.append (ha : Flat a) (hb : Flat b) : Flat (a ++ b) := Closed.append ha hb

theorem Complete.join {ts : List String} (h : ∀ t ∈ ts, Complete t) :
    Complete (String.join ts) := by
  induction ts with
  | nil => exact ⟨0, rfl⟩
  | cons t ts ih =>
    rw [String.join_cons]
    exact (h t (by simp)).append (ih fun u hu => h u (by simp [hu]))

/-- Whether two texts are brackets around what stands between them. -/
def Encloses (n : Nat) (front back : String) : Prop :=
  ∃ p ∈ Place.start.read? front,
    p.Plain ∧ p.opened ≠ [] ∧ p.read? back = some { Place.start with blocks := n }

theorem Complete.enclosed (h : Complete t) (hab : Encloses n a b) : Closed n (a ++ t ++ b) := by
  obtain ⟨p, hfront, hp, ho, hback⟩ := hab
  rw [Closed, String.append_assoc, Place.read?_append_of_eq hfront,
    Place.read?_append_of_eq (h.read?_eq hp ho), hback]

/-! ## Texts without brackets -/

/-- The characters that the reader takes notice of. -/
def marks : List Char := ['\\', '"', '\'', '(', ')', '[', ']', '\x7b', '\x7d']

/-- Whether a character is read as itself. -/
def isOrdinary (c : Char) : Bool := !(marks.contains c)

/-- What all marks have, and a character has not, tells that it is ordinary. -/
theorem isOrdinary_of_all_marks {p : Char → Bool} {c : Char} (hmarks : marks.all p = true)
    (hc : p c = false) : isOrdinary c = true := by
  rw [isOrdinary, Bool.not_eq_true', Bool.eq_false_iff]
  intro hmark
  simp [List.all_eq_true.mp hmarks c (List.contains_iff_mem.mp hmark)] at hc

theorem Place.next?_of_isOrdinary {c : Char} (hp : p.Plain) (hc : isOrdinary c = true) :
    p.next? c = some p := by
  obtain ⟨hq, he⟩ := hp
  have hmark : c ∉ marks := by simpa [isOrdinary] using hc
  simp only [marks, List.mem_cons, List.not_mem_nil, or_false, not_or] at hmark
  simp [Place.next?, Place.nextPlain?, Place.closing?, hq, he, hmark]

/-- Whether a text has no brackets, quotes and backslashes. -/
def Ordinary (t : String) : Prop := ∀ c ∈ t.toList, isOrdinary c = true

instance (t : String) : Decidable (Ordinary t) :=
  List.decidableBAll _ t.toList

theorem ordinary_append : Ordinary (a ++ b) ↔ Ordinary a ∧ Ordinary b := by
  simp only [Ordinary, String.toList_append, List.forall_mem_append]

theorem Ordinary.flat (h : Ordinary t) : Flat t := by
  have hread : ∀ s : List Char, (∀ c ∈ s, isOrdinary c = true) →
      Place.start.readChars? s = some Place.start := by
    intro s hs
    induction s with
    | nil => rfl
    | cons c s ih =>
      have hc : Place.start.next? c = some Place.start :=
        Place.next?_of_isOrdinary ⟨rfl, rfl⟩ (hs c List.mem_cons_self)
      rw [Place.readChars?_cons, hc, Option.bind_some]
      exact ih fun d hd => hs d (List.mem_cons_of_mem c hd)
  exact hread t.toList h

/-! ## Deciding whether a text is closed

Most texts of rules are ASCII, and most of their bytes are read as themselves. -/

/-- The bytes of a text. -/
def bytes (t : String) : List UInt8 := t.toByteArray.data.toList

/-- Whether a byte is in one of the runs of ASCII that are quickly told to have no marks: from the
asterisk to the capital letters, from the caret to the small letters, and the space. -/
def isOrdinaryByte (b : UInt8) : Bool :=
  (94 ≤ b.toNat && b.toNat ≤ 122) || (42 ≤ b.toNat && b.toNat ≤ 90) || b.toNat == 32

theorem isOrdinary_of_isOrdinaryByte {b : UInt8} (h : isOrdinaryByte b = true) :
    b.toNat < 128 ∧ isOrdinary (Char.ofNat b.toNat) = true := by
  have hall : ∀ n < 128, ((94 ≤ n && n ≤ 122) || (42 ≤ n && n ≤ 90) || n == 32) = true →
      isOrdinary (Char.ofNat n) = true := by decide
  have hb : b.toNat < 128 := by
    simp only [isOrdinaryByte, Bool.or_eq_true, Bool.and_eq_true, decide_eq_true_eq,
      beq_iff_eq] at h
    omega
  exact ⟨hb, hall _ hb h⟩

/-- The characters of an ASCII text are its bytes. -/
theorem toList_eq_map_bytes {t : String} (h : (bytes t).all (· < 128) = true) :
    t.toList = (bytes t).map fun b => Char.ofNat b.toNat := by
  have hbyte : ∀ b ∈ bytes t, String.utf8EncodeChar (Char.ofNat b.toNat) = [b] := by
    intro b hb
    have hb : b.toNat < 128 := by simpa [UInt8.lt_iff_toNat_lt] using List.all_eq_true.mp h b hb
    have hchar : (Char.ofNat b.toNat).val.toNat = b.toNat := by
      rw [Char.ofNat, dif_pos (.inl (by omega))]
      rfl
    rw [String.utf8EncodeChar, hchar, if_pos (by omega), UInt8.ofNat_toNat]
  have hencode : ((bytes t).map fun b => Char.ofNat b.toNat).flatMap String.utf8EncodeChar =
      bytes t := by
    rw [List.flatMap_map, List.flatMap_def, List.map_congr_left hbyte, ← List.flatMap_def,
      List.flatMap_singleton']
  rw [← String.ofList_inj, String.ofList_toList, ← String.toByteArray_inj,
    String.toByteArray_ofList, List.utf8Encode, hencode]
  apply ByteArray.ext
  simp [bytes]

theorem ordinary_of_bytes {t : String} (h : (bytes t).all isOrdinaryByte = true) :
    Ordinary t := by
  have hbyte : ∀ b ∈ bytes t, b.toNat < 128 ∧ isOrdinary (Char.ofNat b.toNat) = true := fun b hb =>
    isOrdinary_of_isOrdinaryByte (List.all_eq_true.mp h b hb)
  have hascii : (bytes t).all (· < 128) = true :=
    List.all_eq_true.mpr fun b hb => by simpa [UInt8.lt_iff_toNat_lt] using (hbyte b hb).1
  intro c hc
  rw [toList_eq_map_bytes hascii] at hc
  obtain ⟨b, hb, rfl⟩ := List.mem_map.mp hc
  exact (hbyte b hb).2

namespace Place

/-- The place behind a byte, which is the same place for most of them. -/
def nextByte? (p : Place) (b : UInt8) : Option Place :=
  if (p.quote.isNone && !p.escaped && isOrdinaryByte b) = true then some p
  else p.next? (Char.ofNat b.toNat)

/-- The place behind a text, over its bytes if it is ASCII. -/
def readBytes? (p : Place) (t : String) : Option Place :=
  if (bytes t).all (· < 128) = true then (bytes t).foldlM nextByte? p else p.read? t

theorem nextByte?_eq (p : Place) (b : UInt8) : p.nextByte? b = p.next? (Char.ofNat b.toNat) := by
  rw [nextByte?]
  split
  · rename_i h
    simp only [Bool.and_eq_true, Option.isNone_iff_eq_none, Bool.not_eq_true'] at h
    exact (next?_of_isOrdinary h.1 (isOrdinary_of_isOrdinaryByte h.2).2).symm
  · rfl

theorem readBytes?_eq (p : Place) (t : String) : p.readBytes? t = p.read? t := by
  rw [readBytes?]
  split
  · rename_i hascii
    have hsame : nextByte? = fun p b => p.next? (Char.ofNat b.toNat) :=
      funext fun p => funext (nextByte?_eq p)
    rw [read?, toList_eq_map_bytes hascii, readChars?, List.foldlM_map, hsame]
  · rfl

end Place

instance (n : Nat) (t : String) : Decidable (Closed n t) :=
  decidable_of_iff (Place.start.readBytes? t = some { Place.start with blocks := n })
    (by rw [Place.readBytes?_eq, Closed])

theorem complete_iff : Complete t ↔
    (Place.start.read? t).map (fun p => { p with blocks := 0 }) = some Place.start := by
  constructor
  · rintro ⟨n, h⟩
    rw [h]
    rfl
  · intro h
    obtain ⟨⟨opened, quote, escaped, blocks⟩, hread, hplace⟩ := Option.map_eq_some_iff.mp h
    obtain ⟨rfl, rfl, rfl⟩ : opened = [] ∧ quote = none ∧ escaped = false := by
      simpa [Place.start] using hplace
    exact ⟨blocks, hread⟩

instance (t : String) : Decidable (Complete t) :=
  decidable_of_iff ((Place.start.readBytes? t).map (fun p => { p with blocks := 0 }) =
    some Place.start) (by rw [Place.readBytes?_eq, complete_iff])

instance (n : Nat) (front back : String) : Decidable (Encloses n front back) :=
  decidable_of_iff (∃ p ∈ Place.start.readBytes? front,
      p.Plain ∧ p.opened ≠ [] ∧ p.readBytes? back = some { Place.start with blocks := n })
    (by simp only [Place.readBytes?_eq, Encloses])

/-! ## Texts with slots -/

/-- The place behind a character of a text in which `&` stands for another text; it must not do so
within quotes or behind a backslash. -/
def Place.slot? (p : Place) (c : Char) : Option Place :=
  if c = '&' ∧ ¬ p.Plain then none else p.next? c

/-- Whether a text in which `&` stands for another text is closed. -/
def Frame (t : String) : Prop := t.toList.foldlM Place.slot? Place.start = some Place.start

instance (t : String) : Decidable (Frame t) := inferInstanceAs (Decidable (_ = _))

/-- A slot reads as the text that fills it. -/
theorem Place.readChars?_fill {s : List Char} (ht : Flat t)
    (h : s.foldlM Place.slot? p = some q) :
    p.readChars? (s.flatMap fun c => if c = '&' then t.toList else [c]) = some q := by
  induction s generalizing p with
  | nil => simpa [Place.readChars?] using h
  | cons c s ih =>
    rw [List.foldlM_cons] at h
    obtain ⟨r, hr, h⟩ := Option.bind_eq_some_iff.mp h
    rw [List.flatMap_cons, Place.readChars?_append]
    by_cases hc : c = '&'
    · subst hc
      -- the slot itself leaves the place as it is, and so does the text that fills it
      by_cases hp : p.Plain
      · obtain rfl : p = r := by
          simpa [Place.slot?, hp, Place.next?_of_isOrdinary hp (by decide : isOrdinary '&' = true)]
            using hr
        rw [if_pos rfl]
        exact (congrArg (Option.bind · _) (Flat.read?_eq ht hp)).trans (ih h)
      · simp [Place.slot?, hp] at hr
    · rw [Place.slot?, if_neg fun h => hc h.1] at hr
      rw [if_neg hc, Place.readChars?_cons, hr]
      exact ih h

/-- **A closed text may fill the slots of another one.** -/
theorem Frame.fill (h : Frame a) (ht : Flat t) : Flat (Text.replace "&" t a) := by
  rw [Flat, Closed, Place.read?, Text.replace, String.toList_ofList]
  exact (congrArg _ (Text.replaceChars_singleton '&' t.toList a.toList)).trans
    (Place.readChars?_fill ht h)

end LivePreview.Style
