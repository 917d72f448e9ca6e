import LivePreview.Console.Log
import Mathlib.Data.List.DropRight
import Mathlib.Data.List.Nodup
/-!
# The tail of the console

The console holds the end of what was written since it was last cleared, as much of it as there is
room for. Entries are numbered over all that was ever written: dropping and clearing take entries
away, and no number comes back (`console_tail`).

`Tails` says how a log follows the calls on it. One call keeps it (`Tails.apply`), so it holds
behind all of them.
-/
namespace LivePreview.ConsoleLog

/-! ## Calls -/

/-- A call on a log. -/
inductive Call where
  | push (method : ConsoleMethod) (args : List String)
  | clear
deriving DecidableEq, Repr

/-- What a call writes. -/
def Call.line? : Call → Option (ConsoleMethod × List String)
  | push method args => some (method, args)
  | clear => none

/-- The log behind a call. -/
def apply (l : ConsoleLog) : Call → ConsoleLog
  | .push method args => l.push method args
  | .clear => l.clear

/-- The log behind some calls on a new one. -/
def behind (capacity : Nat) (calls : List Call) : ConsoleLog := calls.foldl apply (empty capacity)

/-- What some calls write, in order. -/
def lines (calls : List Call) : List (ConsoleMethod × List String) := calls.filterMap Call.line?

/-- The entries for all that was ever written: the first one has the number one. -/
def written (calls : List Call) : List ConsoleEntry :=
  ((lines calls).zipIdx 1).map fun p => ⟨p.2, p.1.1, p.1.2⟩

/-- The calls behind the last clearing. -/
def sinceClear (calls : List Call) : List Call := calls.rtakeWhile (· ≠ .clear)

variable {capacity room : Nat} {calls : List Call} {l : ConsoleLog}

section Written

variable (calls later : List Call) (method : ConsoleMethod) (args : List String)

@[simp] theorem lines_push :
    lines (calls ++ [.push method args]) = lines calls ++ [(method, args)] := by
  simp [lines, Call.line?]

@[simp] theorem lines_clear : lines (calls ++ [.clear]) = lines calls := by
  simp [lines, Call.line?]

@[simp] theorem sinceClear_push :
    sinceClear (calls ++ [.push method args]) = sinceClear calls ++ [.push method args] :=
  List.rtakeWhile_concat_pos _ _ _ (by simp)

@[simp] theorem sinceClear_clear : sinceClear (calls ++ [.clear]) = [] :=
  List.rtakeWhile_concat_neg _ _ _ (by simp)

@[simp] theorem length_written : (written calls).length = (lines calls).length := by
  simp [written]

@[simp] theorem written_push :
    written (calls ++ [.push method args]) =
      written calls ++ [⟨(lines calls).length + 1, method, args⟩] := by
  simp [written, List.zipIdx_append, Nat.add_comm]

@[simp] theorem written_clear : written (calls ++ [.clear]) = written calls := by
  simp [written]

/-- Later entries come behind the earlier ones, whose numbers they leave as they are. -/
theorem written_grows : written calls <+: written (calls ++ later) := by
  simp only [written, lines, List.filterMap_append, List.zipIdx_append, List.map_append]
  exact List.prefix_append _ _

theorem ids_written : (written calls).map (·.id) = List.range' 1 (lines calls).length := by
  rw [written, List.map_map]
  exact List.zipIdx_map_snd 1 (lines calls)

/-- No two entries have the same number. -/
theorem ids_nodup : ((written calls).map (·.id)).Nodup := by
  rw [ids_written]
  exact List.nodup_range'

theorem lines_written : (written calls).map (fun e => (e.method, e.args)) = lines calls := by
  rw [written, List.map_map]
  exact List.zipIdx_map_fst 1 (lines calls)

theorem lines_sinceClear_suffix : lines (sinceClear calls) <:+ lines calls :=
  (List.rtakeWhile_suffix _ _).filterMap _

theorem length_sinceClear_le : (lines (sinceClear calls)).length ≤ (lines calls).length :=
  (lines_sinceClear_suffix calls).length_le

end Written

/-! ## The end of a list -/

section Rtake

variable {α : Type} {xs ys : List α} {n k : Nat}

theorem length_rtake (xs : List α) (n : Nat) : (xs.rtake n).length = min n xs.length := by
  simp only [List.rtake, List.length_drop]
  omega

/-- What is at the end of an end is at the end of the whole. -/
theorem rtake_of_suffix (h : ys <:+ xs) (hn : n ≤ ys.length) : ys.rtake n = xs.rtake n := by
  obtain ⟨front, rfl⟩ := h
  have hlength : (front ++ ys).length - n = front.length + (ys.length - n) := by
    rw [List.length_append]
    omega
  have hfront : front.drop (front.length + (ys.length - n)) = [] :=
    List.drop_eq_nil_of_le (Nat.le_add_right ..)
  rw [List.rtake, List.rtake, hlength, List.drop_append, hfront, List.nil_append,
    Nat.add_sub_cancel_left]

/-- An end without its first member is a shorter end. -/
theorem drop_one_rtake (h : k < xs.length) : (xs.rtake (k + 1)).drop 1 = xs.rtake k := by
  rw [List.rtake, List.rtake, List.drop_drop]
  congr 1
  omega

end Rtake

/-! ## A call at a time -/

/-- How a log with some room follows the calls on it. -/
structure Tails (room : Nat) (calls : List Call) (l : ConsoleLog) : Prop where
  capacity : l.capacity = room
  nextId : l.nextId = (lines calls).length + 1
  entries : l.entries = (written calls).rtake (min (lines (sinceClear calls)).length room)

theorem tails_empty (capacity : Nat) : Tails (max capacity 1) [] (empty capacity) :=
  ⟨rfl, rfl, rfl⟩

/-- A new entry comes behind the others; if the log is full the oldest one has to go. -/
theorem Tails.push (h : Tails (room + 1) calls l) (method : ConsoleMethod) (args : List String) :
    Tails (room + 1) (calls ++ [.push method args]) (l.push method args) where
  capacity := h.capacity
  nextId := by simp [ConsoleLog.push, h.nextId]
  entries := by
    have hle := length_sinceClear_le calls
    have hlength : l.entries.length = min (lines (sinceClear calls)).length (room + 1) := by
      rw [h.entries, length_rtake, length_written]
      omega
    have hkept : (if l.entries.length = l.capacity then l.entries.drop 1 else l.entries) =
        (written calls).rtake (min (lines (sinceClear calls)).length room) := by
      rw [hlength, h.capacity, h.entries]
      split
      · rename_i hfull
        rw [hfull, drop_one_rtake (by rw [length_written]; omega)]
        congr 1
        omega
      · congr 1
        omega
    have hmin : min ((lines (sinceClear calls)).length + 1) (room + 1) =
        min (lines (sinceClear calls)).length room + 1 := by omega
    simp only [ConsoleLog.push, hkept, h.nextId, written_push, sinceClear_push, lines_push,
      List.length_append, List.length_singleton, hmin, List.rtake_concat_succ]

theorem Tails.clear (h : Tails room calls l) : Tails room (calls ++ [.clear]) l.clear where
  capacity := h.capacity
  nextId := by simp [ConsoleLog.clear, h.nextId]
  entries := by simp [ConsoleLog.clear, lines]

theorem Tails.apply (h : Tails (room + 1) calls l) (c : Call) :
    Tails (room + 1) (calls ++ [c]) (l.apply c) := by
  cases c with
  | push method args => exact h.push method args
  | clear => exact h.clear

/-- The log behind some calls follows them. -/
theorem tails_behind (capacity : Nat) (calls : List Call) :
    Tails (max capacity 1) calls (behind capacity calls) := by
  induction calls using List.reverseRecOn with
  | nil => exact tails_empty capacity
  | append_singleton calls c ih =>
    obtain ⟨room, hroom⟩ : ∃ room, max capacity 1 = room + 1 := ⟨max capacity 1 - 1, by omega⟩
    rw [hroom] at ih ⊢
    rw [behind, List.foldl_append]
    exact ih.apply c

theorem mem_written_of_mem_behind {e : ConsoleEntry} (h : e ∈ (behind capacity calls).entries) :
    e ∈ written calls := by
  rw [(tails_behind capacity calls).entries] at h
  exact List.mem_of_mem_drop h

/-- **The console is the tail of what was logged.** Behind any calls on a log for `capacity` entries
it holds, in order, the last ones of what was written since it was last cleared: all if there is
room for them, and there is room for at least one. The entry that is written next has the number of
everything written before plus one. So the numbers of the entries follow each other and end with
that of all that was ever written, and whenever an entry with the same number is there later, it is
the same entry. -/
theorem console_tail (capacity : Nat) (calls : List Call) :
    let kept := min (lines (sinceClear calls)).length (max capacity 1)
    (behind capacity calls).entries = (written calls).rtake kept ∧
      (behind capacity calls).entries.map (fun e => (e.method, e.args)) =
        (lines (sinceClear calls)).rtake kept ∧
      (∀ method args, (behind capacity (calls ++ [.push method args])).entries.getLast? =
        some ⟨(lines calls).length + 1, method, args⟩) ∧
      (behind capacity calls).entries.map (·.id) =
        List.range' ((lines calls).length - kept + 1) kept ∧
      ∀ later, ∀ e ∈ (behind capacity calls).entries,
        ∀ e' ∈ (behind capacity (calls ++ later)).entries, e.id = e'.id → e = e' := by
  intro kept
  have hentries := (tails_behind capacity calls).entries
  have hle := length_sinceClear_le calls
  have hkept : kept ≤ (lines (sinceClear calls)).length := Nat.min_le_left ..
  refine ⟨hentries, ?_, fun method args => ?_, ?_, fun later e he e' he' hid => ?_⟩
  · rw [hentries, List.rtake, List.map_drop, lines_written, length_written,
      rtake_of_suffix (lines_sinceClear_suffix calls) hkept, List.rtake]
  · rw [(tails_behind capacity _).entries, written_push, sinceClear_push, lines_push]
    obtain ⟨n, hn⟩ : ∃ n, min (lines (sinceClear calls) ++ [(method, args)]).length
        (max capacity 1) = n + 1 := by
      refine ⟨min (lines (sinceClear calls)).length (max capacity 1 - 1), ?_⟩
      rw [List.length_append, List.length_singleton]
      omega
    rw [hn, List.rtake_concat_succ, List.getLast?_concat]
  · rw [hentries, List.rtake, List.map_drop, ids_written, length_written, List.drop_range']
    congr 1
    all_goals omega
  · -- both stand among all that was written, and there no number comes twice
    have hmem := (written_grows calls later).subset (mem_written_of_mem_behind he)
    exact List.inj_on_of_nodup_map (ids_nodup _) hmem (mem_written_of_mem_behind he') hid

/-- A log with room for two is cleared and overflows; the numbers go on all the same. -/
theorem console_tail_across_clear :
    let calls : List Call := [.push .log ["a"], .push .log ["b"], .clear, .push .warn ["c"],
      .push .info ["d"], .push .log ["e"]]
    (behind 2 calls).entries = [⟨4, .info, ["d"]⟩, ⟨5, .log, ["e"]⟩] ∧
      (behind 2 (calls ++ [.push .error []])).entries.getLast? = some ⟨6, .error, []⟩ ∧
      ∀ e' ∈ (behind 2 (calls ++ [.push .error []])).entries,
        5 = e'.id → ⟨5, .log, ["e"]⟩ = e' := by
  intro calls
  obtain ⟨hentries, -, hnext, -, hsame⟩ := console_tail 2 calls
  have hentries : (behind 2 calls).entries = [⟨4, .info, ["d"]⟩, ⟨5, .log, ["e"]⟩] := hentries
  exact ⟨hentries, hnext .error [], fun e' he' hid =>
    hsame [.push .error []] ⟨5, .log, ["e"]⟩ (by rw [hentries]; simp) e' he' hid⟩

end LivePreview.ConsoleLog
