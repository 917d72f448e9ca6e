import LivePreview.Proofs.Members
import LivePreview.Url.Parser
import Mathlib.Data.List.Induction
import Mathlib.Tactic.NormNum
/-!
# Numeric hosts

A numeric address is a number of 32 or of 128 bits, however it was spelled, and the addresses that
are not public come in blocks that share their first bits. The checks of a registry's host take the
bytes and pieces of an address apart.
-/
namespace LivePreview
namespace Url

/-! ## Numbers in a base -/

theorem digitsValue_concat (base : Nat) (ds : List Nat) (d : Nat) :
    digitsValue base (ds ++ [d]) = digitsValue base ds * base + d := by
  simp [digitsValue]

theorem digitsValue_lt {base : Nat} {ds : List Nat} (h : ∀ d ∈ ds, d < base) :
    digitsValue base ds < base ^ ds.length := by
  -- the last digit is the one that the base does not multiply
  induction ds using List.reverseRecOn with
  | nil => simp [digitsValue]
  | append_singleton ds d ih =>
    have hds : digitsValue base ds < base ^ ds.length := ih fun x hx => h x (by simp [hx])
    have hd : d < base := h d (by simp)
    calc digitsValue base (ds ++ [d])
        = digitsValue base ds * base + d := digitsValue_concat base ds d
      _ < (digitsValue base ds + 1) * base := by rw [Nat.succ_mul]; omega
      _ ≤ base ^ ds.length * base := Nat.mul_le_mul_right base hds
      _ = base ^ (ds ++ [d]).length := by rw [List.length_append, List.length_singleton, pow_succ]

theorem number?_lt {base n : Nat} {s : List Char} (h : number? base s = some n) :
    n < base ^ s.length := by
  obtain ⟨digits, hdigits, rfl⟩ := Option.map_eq_some_iff.mp h
  rw [← length_of_mapM hdigits]
  refine digitsValue_lt fun d hd => ?_
  obtain ⟨c, -, hc⟩ := exists_mem_of_mapM hdigits hd
  simpa using (Option.filter_eq_some_iff.mp hc).2

/-! ## Addresses of the fourth version -/

theorem Ipv4.ofNumbers?_lt {numbers : List Nat} {a : Nat} (h : ofNumbers? numbers = some a) :
    a < 2 ^ 32 := by
  rw [ofNumbers?] at h
  split at h
  · rename_i last hlast
    split at h
    · rename_i hin
      obtain ⟨hlength, hbytes, hrest⟩ := hin
      obtain rfl := Option.some.inj h
      have hfront : digitsValue 256 numbers.dropLast < 256 ^ numbers.dropLast.length :=
        digitsValue_lt fun d hd => by simpa using List.all_eq_true.mp hbytes d hd
      generalize numbers.dropLast.length = k at *
      generalize digitsValue 256 numbers.dropLast = v at *
      calc v * 256 ^ (4 - k) + last
          < (v + 1) * 256 ^ (4 - k) := by rw [Nat.succ_mul]; exact Nat.add_lt_add_left hrest _
        _ ≤ 256 ^ k * 256 ^ (4 - k) := Nat.mul_le_mul_right _ hfront
        _ = 2 ^ 32 := by rw [← pow_add, Nat.add_sub_cancel' (by omega)]; norm_num
    · cases h
  · cases h

theorem Ipv4.parse?_lt {s : List Char} {a : Nat} (h : Ipv4.parse? s = some a) : a < 2 ^ 32 := by
  obtain ⟨numbers, -, hnumbers⟩ := Option.bind_eq_some_iff.mp h
  exact ofNumbers?_lt hnumbers

/-! ## Addresses of the sixth version -/

/-- Eight pieces of sixteen bits. -/
structure Ipv6.Full (pieces : List Nat) : Prop where
  length : pieces.length = 8
  lt : ∀ p ∈ pieces, p < 2 ^ 16

/-- Pieces that were read so far, with the place of a run of zeros among them. -/
structure Ipv6.Partial (pieces : List Nat) (gap : Option Nat) : Prop where
  length : pieces.length ≤ 8
  lt : ∀ p ∈ pieces, p < 2 ^ 16
  gap : ∀ k, gap = some k → k ≤ pieces.length

namespace Ipv6

theorem Full.exists_pieces {pieces : List Nat} (h : Full pieces) :
    ∃ a b c d e f g h, pieces = [a, b, c, d, e, f, g, h] := by
  obtain ⟨hlength, -⟩ := h
  match pieces, hlength with
  | [a, b, c, d, e, f, g, h], _ => exact ⟨a, b, c, d, e, f, g, h, rfl⟩

theorem piece_lt (s : List Char) : (piece s).1 < 2 ^ 16 := by
  rw [piece]
  dsimp only
  generalize hd : (s.take 4).takeWhile _ = digits
  have hlength : digits.length ≤ 4 := by
    rw [← hd]
    exact (List.takeWhile_prefix _).length_le.trans (List.length_take_le 4 s)
  cases h : number? 16 digits with
  | none => simp
  | some n =>
    calc n < 16 ^ digits.length := number?_lt h
      _ ≤ 16 ^ 4 := Nat.pow_le_pow_right (by norm_num) hlength
      _ = 2 ^ 16 := by norm_num

theorem octet?_lt {s : List Char} {n : Nat} (h : octet? s = some n) : n < 256 := by
  rw [octet?] at h
  split at h
  · cases h
  · simpa using (Option.filter_eq_some_iff.mp h).2

/-- An address of the fourth version stands for two pieces. -/
theorem embedded?_eq_some {s : List Char} {ps : List Nat} (h : embedded? s = some ps) :
    ps.length = 2 ∧ ∀ p ∈ ps, p < 2 ^ 16 := by
  obtain ⟨octets, hoctets, h⟩ := Option.bind_eq_some_iff.mp h
  have hlt : ∀ o ∈ octets, o < 256 := by
    intro o ho
    obtain ⟨part, -, hpart⟩ := exists_mem_of_mapM hoctets ho
    exact octet?_lt hpart
  split at h
  · rename_i a b c d
    obtain rfl := Option.some.inj h
    simp only [List.mem_cons, List.not_mem_nil, or_false, forall_eq_or_imp, forall_eq] at hlt
    refine ⟨rfl, ?_⟩
    simp only [List.mem_cons, List.not_mem_nil, or_false, forall_eq_or_imp, forall_eq]
    omega
  · cases h

variable {ps : List Nat} {gap : Option Nat}

/-- More pieces may be read while there are less than eight. -/
theorem Partial.append (h : Partial ps gap) {more : List Nat}
    (hlength : ps.length + more.length ≤ 8) (hmore : ∀ p ∈ more, p < 2 ^ 16) :
    Partial (ps ++ more) gap where
  length := by simpa using hlength
  lt p hp := (List.mem_append.mp hp).elim (h.lt p) (hmore p)
  gap k hk := (h.gap k hk).trans (by simp)

theorem Partial.of_pieces? {fuel : Nat} {s : List Char} {ps' : List Nat} {gap' : Option Nat}
    (h : Partial ps gap) (hread : pieces? fuel s ps gap = some (ps', gap')) : Partial ps' gap' := by
  induction fuel generalizing s ps gap with
  | zero => simp [pieces?] at hread
  | succ fuel ih =>
    cases s with
    | nil =>
      obtain ⟨rfl, rfl⟩ : ps = ps' ∧ gap = gap' := by simpa [pieces?] using hread
      exact h
    | cons c r =>
      rw [pieces?] at hread
      split at hread
      · cases hread
      rename_i hlength
      have hroom : ps.length + 1 ≤ 8 := by have := h.length; omega
      have hpiece : Partial (ps ++ [(piece (c :: r)).1]) gap :=
        h.append hroom (by simpa using piece_lt (c :: r))
      split at hread
      · -- a colon: a run of zeros starts, and its place is among the pieces so far
        split at hread
        · cases hread
        · have hzero : Partial (ps ++ [0]) gap := h.append hroom (by simp)
          refine ih ⟨hzero.length, hzero.lt, ?_⟩ hread
          intro k hk
          obtain rfl : ps.length + 1 = k := Option.some.inj hk
          simp
      · -- a piece: the text ends behind it, goes on, or was one of the fourth version
        dsimp only at hread
        split at hread
        · obtain ⟨rfl, rfl⟩ : ps ++ [(piece (c :: r)).1] = ps' ∧ gap = gap' := by simpa using hread
          exact hpiece
        · cases hread
        · exact ih hpiece hread
        · split at hread
          · cases hread
          · rename_i hmost
            obtain ⟨last, hlast, heq⟩ := Option.map_eq_some_iff.mp hread
            obtain ⟨rfl, rfl⟩ : ps ++ last = ps' ∧ gap = gap' := by simpa using heq
            obtain ⟨htwo, hlt⟩ := embedded?_eq_some hlast
            exact h.append (by omega) hlt
        · cases hread

theorem Partial.full {pieces : List Nat} (h : Partial ps gap) (hfill : fill? ps gap = some pieces) :
    Full pieces := by
  cases gap with
  | none =>
    obtain ⟨hlength, rfl⟩ : ps.length = 8 ∧ ps = pieces := by simpa [fill?] using hfill
    exact ⟨hlength, h.lt⟩
  | some k =>
    obtain rfl : ps.take k ++ List.replicate (8 - ps.length) 0 ++ ps.drop k = pieces := by
      simpa [fill?] using hfill
    have hk := h.gap k rfl
    have hlength := h.length
    refine ⟨by simp; omega, ?_⟩
    intro p hp
    simp only [List.mem_append, List.mem_replicate] at hp
    rcases hp with (hp | ⟨-, rfl⟩) | hp
    · exact h.lt p (List.mem_of_mem_take hp)
    · norm_num
    · exact h.lt p (List.mem_of_mem_drop hp)

theorem parse?_full {s : List Char} {pieces : List Nat} (h : parse? s = some pieces) :
    Full pieces := by
  obtain ⟨⟨s', ps, gap⟩, hstart, h⟩ := Option.bind_eq_some_iff.mp h
  obtain ⟨⟨ps', gap'⟩, hread, hfill⟩ := Option.bind_eq_some_iff.mp h
  have hpartial : Partial ps gap := by
    split at hstart
    · obtain ⟨-, rfl, rfl⟩ : _ ∧ [0] = ps ∧ some 1 = gap := by simpa using hstart
      exact ⟨by simp, by simp, by simp⟩
    · cases hstart
    · cases hstart
    · cases hstart
    · obtain ⟨-, rfl, rfl⟩ : _ ∧ [] = ps ∧ none = gap := by simpa using hstart
      exact ⟨by simp, by simp, by simp⟩
  exact (hpartial.of_pieces? hread).full hfill

end Ipv6

/-! ## The host of a URL -/

/-- An address has its width; nothing is asked of a domain. -/
def Host.InRange : Host → Prop
  | .domain _ => True
  | .ipv4 a => a < 2 ^ 32
  | .ipv6 pieces => Ipv6.Full pieces

theorem Host.inRange_of_bracketed {s : List Char} {host : Host} (h : bracketed s = .ok host) :
    host.InRange := by
  rw [bracketed] at h
  split at h
  · rename_i pieces _ hpieces
    obtain rfl := Except.ok.inj h
    exact Ipv6.parse?_full hpieces
  · cases h

theorem Host.inRange_of_ofAscii {name : List Char} {host : Host} (h : ofAscii name = .ok host) :
    host.InRange := by
  rw [ofAscii] at h
  split at h
  · cases h
  split at h
  · split at h
    · rename_i a ha
      obtain rfl := Except.ok.inj h
      exact Ipv4.parse?_lt ha
    · cases h
  · obtain rfl := Except.ok.inj h
    trivial

theorem Host.inRange_of_parse {s : List Char} {host : Host} (h : Host.parse s = .ok host) :
    host.InRange := by
  unfold Host.parse at h
  split at h
  · exact inRange_of_bracketed h
  · split at h
    · exact inRange_of_ofAscii h
    · cases h

theorem host_of_readAuthority {scheme : String} {s : List Char} {isLast : Bool} {a : Authority}
    (h : readAuthority scheme .web s isLast = .ok a) : ∃ name, Host.parse name = .ok a.host := by
  simp only [readAuthority, bind, Except.bind] at h
  split at h
  · cases h
  -- the port and the user have no say in the host
  generalize cutPort false _ = cut at h
  generalize Option.bind _ userText = user at h
  split at h
  · cases h
  rename_i host hhost
  split at h
  · cases h
  split at h
  · cases h
  obtain rfl := Except.ok.inj h
  rw [readHost, if_pos rfl] at hhost
  split at hhost
  · cases hhost
  · exact ⟨_, hhost⟩

/-- A URL of the web keeps its scheme and has a host that was read. -/
theorem host_of_webUrl {scheme : String} {s : List Char} {u : Url} (h : webUrl scheme s = .ok u) :
    u.scheme = scheme ∧ ∃ name, Host.parse name = .ok u.host := by
  simp only [webUrl, bind, Except.bind] at h
  split at h
  · cases h
  · rename_i a ha
    obtain rfl := Except.ok.inj h
    exact ⟨rfl, host_of_readAuthority ha⟩

theorem host_of_parse {s : String} {u : Url} (h : parse s = .ok (.web u)) :
    (∃ rest, scheme? (significant s.toList) = some (u.scheme, rest)) ∧ u.host.InRange := by
  rw [parse] at h
  split at h
  · cases h
  rename_i scheme rest hscheme
  split at h
  · cases hweb : webUrl scheme rest with
    | error => simp [hweb, Except.map] at h
    | ok v =>
      obtain rfl : v = u := by simpa [hweb, Except.map] using h
      obtain ⟨rfl, name, hname⟩ := host_of_webUrl hweb
      exact ⟨⟨rest, hscheme⟩, Host.inRange_of_parse hname⟩
  · cases hfile : checkFile rest <;> simp [hfile, Except.map] at h
  · cases hother : checkOther scheme rest <;> simp [hother, Except.map] at h

end Url
end LivePreview
