import LivePreview.Proofs.NumericHosts
import LivePreview.Registry.Address
/-!
# Public hosts

A document of a registry is fetched from a public host only. The addresses that are not public come
in blocks that share their first bits, and a host is refused exactly if its address lies in one of
them, however it was spelled (`validate_numeric`). An address of the sixth version that stands for
one of the fourth is judged as the latter.

Of domains the ones are refused that are the machine itself or in its own network. The names are
compared as they stand in the URL, and there the dot of the root makes a difference: with it a local
name is accepted, and without it it is not (`validate_local_name`).
-/
namespace LivePreview.Registry.Address

open Url (digitsValue)

/-! ## Blocks of addresses -/

/-- The addresses that share their first bits with one of them. -/
structure Block where
  first : Nat
  shared : Nat

/-- Whether an address of some bits lies in a block. -/
def Block.Holds (bits : Nat) (b : Block) (a : Nat) : Prop :=
  a / 2 ^ (bits - b.shared) = b.first / 2 ^ (bits - b.shared)

/-- The addresses of the fourth version that are not public: those without a meaning on the way, of
private networks, of the machine itself, and of the link. -/
def blocks4 : List Block :=
  [⟨digitsValue 256 [0, 0, 0, 0], 8⟩, ⟨digitsValue 256 [10, 0, 0, 0], 8⟩,
   ⟨digitsValue 256 [127, 0, 0, 0], 8⟩, ⟨digitsValue 256 [169, 254, 0, 0], 16⟩,
   ⟨digitsValue 256 [172, 16, 0, 0], 12⟩, ⟨digitsValue 256 [192, 168, 0, 0], 16⟩]

/-- The addresses of the sixth version that are not public: no address, the machine itself, those of
private networks, and those of the link. -/
def blocks6 : List Block :=
  [⟨digitsValue 65536 [0, 0, 0, 0, 0, 0, 0, 0], 128⟩,
   ⟨digitsValue 65536 [0, 0, 0, 0, 0, 0, 0, 1], 128⟩,
   ⟨digitsValue 65536 [0xfc00, 0, 0, 0, 0, 0, 0, 0], 7⟩,
   ⟨digitsValue 65536 [0xfe80, 0, 0, 0, 0, 0, 0, 0], 10⟩]

def Reserved4 (a : Nat) : Prop := ∃ b ∈ blocks4, b.Holds 32 a

/-- An address that stands for one of the fourth version is judged as that. -/
def Reserved6 (a : Nat) : Prop :=
  if a / 2 ^ 32 = 0xffff then Reserved4 (a % 2 ^ 32) else ∃ b ∈ blocks6, b.Holds 128 a

instance (bits : Nat) (b : Block) (a : Nat) : Decidable (b.Holds bits a) :=
  inferInstanceAs (Decidable (_ = _))

instance (a : Nat) : Decidable (Reserved4 a) :=
  inferInstanceAs (Decidable (∃ b ∈ blocks4, b.Holds 32 a))

instance (a : Nat) : Decidable (Reserved6 a) :=
  inferInstanceAs (Decidable
    (if a / 2 ^ 32 = 0xffff then Reserved4 (a % 2 ^ 32) else ∃ b ∈ blocks6, b.Holds 128 a))

theorem isPrivateIpv4_iff {a : Nat} (ha : a < 2 ^ 32) : isPrivateIpv4 a = true ↔ Reserved4 a := by
  simp [isPrivateIpv4, Url.Ipv4.octets, Reserved4, blocks4, Block.Holds, digitsValue]
  omega

theorem mapped?_eq_some {pieces : List Nat} {a : Nat} :
    mapped? pieces = some a ↔
      ∃ high low, pieces = [0, 0, 0, 0, 0, 65535, high, low] ∧ high * 65536 + low = a := by
  unfold mapped?
  split
  · simp
  · rename_i hne
    refine ⟨fun h => absurd h (by simp), ?_⟩
    rintro ⟨high, low, rfl, -⟩
    exact absurd rfl (hne high low)

/-- An address stands for one of the fourth version if its first bits are those of such. -/
theorem value_of_mapped {pieces : List Nat} {a : Nat} (hp : Url.Ipv6.Full pieces)
    (h : mapped? pieces = some a) :
    digitsValue 65536 pieces / 2 ^ 32 = 0xffff ∧ digitsValue 65536 pieces % 2 ^ 32 = a := by
  obtain ⟨high, low, rfl, rfl⟩ := mapped?_eq_some.mp h
  have hhigh : high < 2 ^ 16 := hp.lt high (by simp)
  have hlow : low < 2 ^ 16 := hp.lt low (by simp)
  simp [digitsValue]
  omega

theorem isPrivateIpv6_iff {pieces : List Nat} (hp : Url.Ipv6.Full pieces) :
    isPrivateIpv6 pieces = true ↔ Reserved6 (digitsValue 65536 pieces) := by
  rw [isPrivateIpv6, Reserved6]
  cases hm : mapped? pieces with
  | some a =>
    obtain ⟨hhigh, rfl⟩ := value_of_mapped hp hm
    rw [if_pos hhigh]
    exact isPrivateIpv4_iff (Nat.mod_lt _ (by norm_num))
  | none =>
    obtain ⟨a, b, c, d, e, f, g, h, rfl⟩ := hp.exists_pieces
    have hlt := hp.lt
    -- the pieces in front tell whether an address stands for one of the fourth version
    have hne : ¬ (a = 0 ∧ b = 0 ∧ c = 0 ∧ d = 0 ∧ e = 0 ∧ f = 65535) := by
      rintro ⟨rfl, rfl, rfl, rfl, rfl, rfl⟩
      simp [mapped?] at hm
    simp only [List.mem_cons, List.not_mem_nil, or_false, forall_eq_or_imp, forall_eq] at hlt
    rw [if_neg (by simp [digitsValue]; omega)]
    simp [blocks6, Block.Holds, digitsValue]
    omega

/-! ## The check of a URL -/

section
variable {raw : String} {u : Url}

/-- What is read as a URL of the two schemes is accepted unless its host is private. -/
theorem validate_of_parse (hread : Url.parse (Text.trim raw) = .ok (.web u))
    (hscheme : u.scheme = "http" ∨ u.scheme = "https") :
    validate raw = if isPrivate u.host then .error (.privateHost u.host.text) else .ok u := by
  rw [validate, hread]
  exact if_neg fun h => hscheme.elim h.1 h.2

/-- A host is refused for what it is, so the check says whether it is. -/
theorem validate_of_isPrivate_iff {P : Prop} (hread : Url.parse (Text.trim raw) = .ok (.web u))
    (hscheme : u.scheme = "http" ∨ u.scheme = "https") (hP : isPrivate u.host = true ↔ P) :
    (validate raw = .ok u ↔ ¬ P) ∧ (P → validate raw = .error (.privateHost u.host.text)) := by
  rw [validate_of_parse hread hscheme, ← hP]
  cases isPrivate u.host <;> simp

theorem validate_of_scheme {scheme : String} {rest : List Char}
    (hread : Url.scheme? (Url.significant (Text.trim raw).toList) = some (scheme, rest))
    (hhttp : scheme ≠ "http") (hhttps : scheme ≠ "https") :
    ∃ reason, validate raw = .error (.invalidUrl raw reason) := by
  unfold validate
  split
  · exact ⟨_, rfl⟩
  · exact ⟨_, rfl⟩
  · rename_i v hv
    obtain ⟨⟨rest', hscheme⟩, -⟩ := Url.host_of_parse hv
    obtain ⟨rfl, -⟩ : scheme = v.scheme ∧ rest = rest' := by simpa [hread] using hscheme
    exact ⟨_, if_pos ⟨hhttp, hhttps⟩⟩

end

/-- **A numeric host is accepted if and only if its address is public.** However a URL of the two
schemes spells its address, the number has the width of its version, and it alone decides; a text of
another scheme is refused whatever else it says. -/
theorem validate_numeric (raw : String) :
    (∀ u, Url.parse (Text.trim raw) = .ok (.web u) → u.scheme = "http" ∨ u.scheme = "https" →
      (∀ a, u.host = .ipv4 a → a < 2 ^ 32 ∧ (validate raw = .ok u ↔ ¬ Reserved4 a) ∧
        (Reserved4 a → validate raw = .error (.privateHost u.host.text))) ∧
      (∀ pieces, u.host = .ipv6 pieces → Url.Ipv6.Full pieces ∧
        (validate raw = .ok u ↔ ¬ Reserved6 (digitsValue 65536 pieces)) ∧
        (Reserved6 (digitsValue 65536 pieces) →
          validate raw = .error (.privateHost u.host.text)))) ∧
    (∀ scheme rest, Url.scheme? (Url.significant (Text.trim raw).toList) = some (scheme, rest) →
      scheme ≠ "http" → scheme ≠ "https" →
      ∃ reason, validate raw = .error (.invalidUrl raw reason)) := by
  refine ⟨fun u hread hscheme => ?_, fun scheme rest => validate_of_scheme⟩
  obtain ⟨-, hrange⟩ := Url.host_of_parse hread
  constructor
  · intro a ha
    rw [ha] at hrange
    refine ⟨hrange, validate_of_isPrivate_iff hread hscheme ?_⟩
    rw [ha]
    exact isPrivateIpv4_iff hrange
  · intro pieces hpieces
    rw [hpieces] at hrange
    refine ⟨hrange, validate_of_isPrivate_iff hread hscheme ?_⟩
    rw [hpieces]
    exact isPrivateIpv6_iff hrange

/-- An address of the link in hexadecimal and octal digits behind a user is refused, a public one
that is written as one of the sixth version is accepted, and so is no address of another scheme. -/
theorem validate_numeric_spelled :
    (∃ u, Url.parse (Text.trim "\thttp://me@0xA9.254.0376.1./r.json ") = .ok (.web u) ∧
      validate "\thttp://me@0xA9.254.0376.1./r.json " = .error (.privateHost u.host.text)) ∧
    (∃ u, Url.parse (Text.trim "https://[::ffff:8.8.8.8]:8443/") = .ok (.web u) ∧
      validate "https://[::ffff:8.8.8.8]:8443/" = .ok u) ∧
    (∃ reason, validate "ftp://8.8.8.8/" = .error (.invalidUrl "ftp://8.8.8.8/" reason)) := by
  let link : Url := ⟨"http", some "me", .ipv4 2852060673, none, ["r.json"], none, none⟩
  let mapped : Url :=
    ⟨"https", none, .ipv6 [0, 0, 0, 0, 0, 65535, 2056, 2056], some 8443, [""], none, none⟩
  refine ⟨⟨link, ?_, ?_⟩, ⟨mapped, ?_, ?_⟩, ?_⟩
  · decide +kernel
  · exact (((validate_numeric _).1 _ (by decide +kernel) (.inl rfl)).1 _ rfl).2.2 (by decide)
  · decide +kernel
  · exact (((validate_numeric _).1 _ (by decide +kernel) (.inr rfl)).2 _ rfl).2.1.mpr (by decide)
  · exact (validate_numeric _).2 "ftp" "//8.8.8.8/".toList (by decide +kernel) (by decide)
      (by decide)

/-! ## Names of the own network -/

/-- Whether a name is the machine itself or in its own network, whatever the case of its letters. -/
def IsLocalName (name : String) : Prop :=
  Text.toAsciiLower name = "localhost" ∨ Text.endsWith ".local" (Text.toAsciiLower name) = true

/-- A name without the dot of the root, which names the same. -/
def withoutRoot (name : String) : String :=
  (Text.before? "." name).getD name

theorem isBlank_asciiLower (c : Char) : Text.isBlank (Text.asciiLower c) = Text.isBlank c := by
  rw [Text.asciiLower]
  split
  · rename_i h
    obtain ⟨hA, hZ⟩ : 'A' ≤ c ∧ c ≤ 'Z' := by simpa using h
    have hfirst : 65 ≤ c.toNat := UInt32.le_iff_toNat_le.mp hA
    have hlast : c.toNat ≤ 90 := UInt32.le_iff_toNat_le.mp hZ
    have hvalid : (c.toNat + 32).isValidChar := .inl (by omega)
    have hlower : (Char.ofNat (c.toNat + 32)).toNat = c.toNat + 32 := by
      rw [Char.ofNat, dif_pos hvalid]
      rfl
    rw [Bool.eq_iff_iff]
    simp only [Text.isBlank, hlower, Bool.or_eq_true, Bool.and_eq_true, decide_eq_true_eq,
      beq_iff_eq]
    omega
  · rfl

/-- Trimming stops at what has no blanks. -/
theorem trimChars_append {front l : List Char} (hl : l ≠ [])
    (hblank : ∀ c ∈ l, Text.isBlank c = false) :
    Text.trimChars (front ++ l) = front.dropWhile Text.isBlank ++ l := by
  have hfront : ∀ {l : List Char} (r), l ≠ [] → (∀ c ∈ l, Text.isBlank c = false) →
      (l ++ r).dropWhile Text.isBlank = l ++ r := by
    intro l r hl hblank
    obtain ⟨c, l, rfl⟩ := List.exists_cons_of_ne_nil hl
    exact List.dropWhile_cons_of_neg (by simp [hblank c])
  have hstart : (front ++ l).dropWhile Text.isBlank = front.dropWhile Text.isBlank ++ l := by
    rw [List.dropWhile_append]
    split
    · rename_i hnone
      rw [List.isEmpty_iff.mp hnone, List.nil_append]
      simpa using hfront [] hl hblank
    · rfl
  rw [Text.trimChars, Text.trimEndChars, hstart, List.reverse_append,
    hfront _ (by simpa using hl) (by simpa using hblank)]
  simp

/-- A text whose lower case ends without blanks is trimmed in front only. -/
theorem toAsciiLower_trim {name r l : String} (h : Text.toAsciiLower name = r ++ l) (hl : l ≠ "")
    (hblank : l.toList.any Text.isBlank = false) :
    ∃ r', Text.toAsciiLower (Text.trim name) = r' ++ l ∧ (r = "" → r' = "") := by
  rw [Text.toAsciiLower, ← String.toList_inj, String.toList_ofList, String.toList_append,
    List.map_eq_append_iff] at h
  obtain ⟨front, rest, hname, hfront, hrest⟩ := h
  have hne : rest ≠ [] := by
    rintro rfl
    exact hl (by simpa using hrest.symm)
  have hblank : ∀ c ∈ rest, Text.isBlank c = false := fun c hc => by
    have hlower : Text.asciiLower c ∈ l.toList := hrest ▸ List.mem_map_of_mem hc
    rw [← isBlank_asciiLower]
    simpa using List.any_eq_false.mp hblank _ hlower
  refine ⟨String.ofList ((front.dropWhile Text.isBlank).map Text.asciiLower), ?_, ?_⟩
  · rw [Text.toAsciiLower, Text.trim, String.toList_ofList, hname, trimChars_append hne hblank,
      List.map_append, hrest, String.ofList_append, String.ofList_toList]
  · rintro rfl
    obtain rfl : front = [] := by simpa using hfront
    rfl

/-- The dot of the root hides a name from the comparison. -/
theorem isLocalDomain_of_root {name : String} (h : Text.endsWith "." name = true) :
    isLocalDomain name = false := by
  obtain ⟨r, rfl⟩ := Text.endsWith_eq_true.mp h
  have hlower : Text.toAsciiLower (r ++ ".") = Text.toAsciiLower r ++ "." := by
    rw [Text.toAsciiLower, String.toList_append, List.map_append, String.ofList_append]
    rfl
  obtain ⟨r', hr', -⟩ := toAsciiLower_trim hlower (by decide) (by decide)
  -- neither of the texts in the comparison ends with a dot
  have hlast : (r' ++ ".").toList.getLast? = some '.' := by simp
  simp only [isLocalDomain, hr', Bool.or_eq_false_iff]
  constructor
  · rw [beq_eq_false_iff_ne]
    intro heq
    rw [heq] at hlast
    exact absurd hlast (by decide)
  · rw [Bool.eq_false_iff]
    intro hend
    obtain ⟨r'', heq⟩ := Text.endsWith_eq_true.mp hend
    rw [heq] at hlast
    simp at hlast

theorem isLocalDomain_of_isLocalName {name : String} (h : IsLocalName name) :
    isLocalDomain name = true := by
  rcases h with h | h
  · obtain ⟨r', hr', hempty⟩ := toAsciiLower_trim (r := "") (l := "localhost") (by simpa using h)
      (by decide) (by decide)
    obtain rfl := hempty rfl
    simp [isLocalDomain, hr']
  · obtain ⟨r, hr⟩ := Text.endsWith_eq_true.mp h
    obtain ⟨r', hr', -⟩ := toAsciiLower_trim hr (by decide) (by decide)
    simp [isLocalDomain, hr', Text.endsWith_eq_true]

theorem withoutRoot_eq_self {name : String} (h : Text.endsWith "." name = false) :
    withoutRoot name = name := by
  rw [Text.endsWith, Option.isSome_eq_false_iff, Option.isNone_iff_eq_none] at h
  rw [withoutRoot, h, Option.getD_none]

/-- **A local name is accepted if and only if it is written with the dot of the root.** The
comparison sees the name as it stands in the URL, in which that dot is kept. -/
theorem validate_local_name {raw name : String} {u : Url}
    (hread : Url.parse (Text.trim raw) = .ok (.web u))
    (hscheme : u.scheme = "http" ∨ u.scheme = "https") (hhost : u.host = .domain name)
    (hlocal : IsLocalName (withoutRoot name)) :
    (validate raw = .ok u ↔ Text.endsWith "." name = true) ∧
      (Text.endsWith "." name = false → validate raw = .error (.privateHost name)) := by
  have hprivate : isPrivate u.host = true ↔ Text.endsWith "." name = false := by
    rw [hhost, isPrivate]
    cases hroot : Text.endsWith "." name with
    | true => simp [isLocalDomain_of_root hroot]
    | false =>
      rw [withoutRoot_eq_self hroot] at hlocal
      simp [isLocalDomain_of_isLocalName hlocal]
  obtain ⟨haccepted, hrefused⟩ := validate_of_isPrivate_iff hread hscheme hprivate
  rw [hhost] at hrefused
  exact ⟨by simpa using haccepted, hrefused⟩

/-- A capital letter behind an escape does not hide a local name, and the dot of the root does. -/
theorem validate_local_name_of_printer :
    (∃ u, validate "https://%50RINTER.local./r.json" = .ok u) ∧
    validate "https://%50RINTER.local/r.json" = .error (.privateHost "printer.local") := by
  have hlocal : IsLocalName "printer.local" := .inr (by decide +kernel)
  have hroot : withoutRoot "printer.local." = "printer.local" := by decide +kernel
  have hself : withoutRoot "printer.local" = "printer.local" := by decide +kernel
  let printer (name : String) : Url := ⟨"https", none, .domain name, none, ["r.json"], none, none⟩
  exact ⟨⟨printer "printer.local.",
      (validate_local_name (by decide +kernel) (.inr rfl) rfl (hroot ▸ hlocal)).1.mpr
        (by decide +kernel)⟩,
    (validate_local_name (u := printer "printer.local") (by decide +kernel) (.inr rfl) rfl
      (hself.symm ▸ hlocal)).2 (by decide +kernel)⟩

/-- A URL of the own machine may be accepted. -/
theorem validate_localhost_of_root :
    ¬ ∀ raw u name, validate raw = .ok u → u.host = .domain name →
      ¬ IsLocalName (withoutRoot name) := by
  intro h
  exact h "http://localhost./x" ⟨"http", none, .domain "localhost.", none, ["x"], none, none⟩
    "localhost." (by decide +kernel) rfl (.inl (by decide +kernel))

end LivePreview.Registry.Address
