import LivePreview.Style.Worker
/-!
# The worker's memory does not show

A worker keeps the stylesheet that it built last. As long as the compiler gives the same result for
the same set, nobody can tell from the responses: they are those of a worker that builds the
stylesheet of every request (`answered_as_without_memory`). What shows is how often the compiler is
called, and that is as seldom as one kept stylesheet allows: a call is spared exactly if the set is
that of the last call that succeeded. A failed call leaves the kept stylesheet where it is.

`Remembers` is the invariant: the worker keeps the set of the last call that succeeded, with the
stylesheet that the compiler gives for it.
-/
namespace LivePreview.Style.Worker

/-- A request with its response, and how often the compiler was called for it. -/
structure Served where
  request : StyleRequest
  response : StyleResponse
  calls : Nat

/-- Answers requests in order. -/
def serve (w : Worker) : List StyleRequest → Worker × List Served
  | [] => (w, [])
  | r :: rest =>
    let (next, response) := w.answer r
    let (last, served) := next.serve rest
    (last, ⟨r, response, next.builds - w.builds⟩ :: served)

/-- All that a worker answers: to requests that come before loading the compiler has ended, to that,
and to requests that come later. -/
def lifetime (loaded : Outcome Build) (early late : List StyleRequest) :
    List Served × StyleResponse × List Served :=
  let (w, before) := start.serve early
  let (w, announcement) := w.load loaded
  (before, announcement, (w.serve late).2)

/-- The set that a request is for. -/
def keyOf (r : StyleRequest) : List String := Text.ordered r.candidates

/-- The set of a call that succeeded. -/
def Served.built? (s : Served) : Option (List String) :=
  match s.calls, s.response with
  | _ + 1, .css _ _ => some (keyOf s.request)
  | _, _ => none

/-- The set of the last call that succeeded. -/
def lastBuilt (log : List Served) : Option (List String) := (log.filterMap Served.built?).getLast?

/-! ## A worker without a memory -/

/-- A compiler that gives the same result for the same set, and never crashes. -/
def pureBuild (build : List String → Except PreviewError String) : Build := fun key =>
  match build key with
  | .ok css => .done css
  | .error e => .refused e

/-- What becomes of loading such a compiler. -/
def loading (build : List String → Except PreviewError String) : Outcome Unit → Outcome Build
  | .done () => .done (pureBuild build)
  | .refused e => .refused e
  | .crashed message => .crashed message

/-- The response to a request if every stylesheet is built. -/
def rebuilt (build : List String → Except PreviewError String) (r : StyleRequest) : StyleResponse :=
  match build (keyOf r) with
  | .ok css => .css css r.id
  | .error e => .failed e.message (some r.id)

/-- A request that is refused, without a call. -/
def turnedDown (r : StyleRequest) : Served :=
  ⟨r, .failed "Compiler not initialized" (some r.id), 0⟩

variable {build : List String → Except PreviewError String} {w : Worker} {log : List Served}

/-! ## Without a compiler -/

theorem answer_of_starting (hstarting : w.starting = true) (r : StyleRequest) :
    w.answer r = (w, notInitialized r.id) := by
  simp [answer, hstarting]

theorem answer_of_no_compiler (hcompiler : w.compiler = none) (hcache : w.cache = none)
    (r : StyleRequest) : w.answer r = (w, notInitialized r.id) := by
  simp [answer, cached?, hcompiler, hcache]

theorem serve_of_refusing (h : ∀ r, w.answer r = (w, notInitialized r.id))
    (rs : List StyleRequest) : w.serve rs = (w, rs.map turnedDown) := by
  induction rs with
  | nil => rfl
  | cons r rest ih =>
    simp only [serve, h, ih, Nat.sub_self, List.map_cons]
    rfl

/-! ## With a compiler -/

theorem lastBuilt_concat (log : List Served) (s : Served) :
    lastBuilt (log ++ [s]) = s.built?.or (lastBuilt log) := by
  cases h : s.built? <;> simp [lastBuilt, h]

/-- What a worker keeps is the outcome of the last call that succeeded. -/
structure Remembers (build : List String → Except PreviewError String) (log : List Served)
    (w : Worker) : Prop where
  starting : w.starting = false
  compiler : w.compiler = some (pureBuild build)
  set : w.cache.map (·.1) = lastBuilt log
  sheet : ∀ key css, w.cache = some (key, css) → build key = .ok css

/-- The calls that one request costs behind some others. -/
def cost (log : List Served) (r : StyleRequest) : Nat :=
  if lastBuilt log = some (keyOf r) then 0 else 1

/-- What is served for a request behind some others. -/
def serving (build : List String → Except PreviewError String) (log : List Served)
    (r : StyleRequest) : Served :=
  ⟨r, rebuilt build r, cost log r⟩

theorem cached?_eq_none {key : List String} (h : w.cache.map (·.1) ≠ some key) :
    w.cached? key = none := by
  cases hcache : w.cache with
  | none => simp [cached?, hcache]
  | some kept =>
    have hne : kept.1 ≠ key := by simpa [hcache] using h
    simp [cached?, hcache, hne]

/-- A worker that keeps the set of a request answers with what it keeps. -/
theorem Remembers.answer_kept (hw : Remembers build log w) {r : StyleRequest}
    (hkept : lastBuilt log = some (keyOf r)) :
    ∃ css, build (keyOf r) = .ok css ∧ w.answer r = (w, .css css r.id) := by
  obtain ⟨⟨key, css⟩, hcache, hkey⟩ := Option.map_eq_some_iff.mp (hw.set.trans hkept)
  obtain rfl : key = keyOf r := hkey
  have hcached : w.cached? (Text.ordered r.candidates) = some css := by
    simp [cached?, hcache, keyOf]
  exact ⟨css, hw.sheet _ css hcache, by simp [Worker.answer, hw.starting, hcached]⟩

/-- Any other request costs a call. -/
theorem Remembers.answer_built (hw : Remembers build log w) {r : StyleRequest}
    (hkept : lastBuilt log ≠ some (keyOf r)) :
    w.answer r = w.build (pureBuild build) (keyOf r) r.id := by
  have hcached : w.cached? (Text.ordered r.candidates) = none :=
    cached?_eq_none (by rwa [hw.set])
  simp [Worker.answer, hw.starting, hcached, hw.compiler, keyOf]

/-- **A request is answered as if there were no memory**, and the memory follows. -/
theorem Remembers.answer (hw : Remembers build log w) (r : StyleRequest) :
    (w.answer r).2 = rebuilt build r ∧ (w.answer r).1.builds = w.builds + cost log r ∧
      Remembers build (log ++ [serving build log r]) (w.answer r).1 := by
  by_cases hkept : lastBuilt log = some (keyOf r)
  · obtain ⟨css, hbuild, hanswer⟩ := hw.answer_kept hkept
    have hlast : lastBuilt (log ++ [serving build log r]) = lastBuilt log := by
      simp [lastBuilt_concat, serving, Served.built?, cost, hkept]
    rw [hanswer]
    exact ⟨by simp [rebuilt, hbuild], by simp [cost, hkept],
      { hw with set := hw.set.trans hlast.symm }⟩
  · rw [hw.answer_built hkept]
    cases hbuild : build (keyOf r) with
    | ok css =>
      have hlast : lastBuilt (log ++ [serving build log r]) = some (keyOf r) := by
        simp [lastBuilt_concat, serving, Served.built?, cost, hkept, rebuilt, hbuild]
      refine ⟨by simp [Worker.build, pureBuild, rebuilt, hbuild],
        by simp [Worker.build, pureBuild, cost, hkept, hbuild], ?_⟩
      rw [Worker.build]
      simp only [pureBuild, hbuild]
      exact {
        starting := hw.starting
        compiler := hw.compiler
        set := hlast.symm
        sheet := fun key text h => by
          obtain ⟨rfl, rfl⟩ := Prod.mk.inj (Option.some.inj h)
          exact hbuild }
    | error e =>
      have hlast : lastBuilt (log ++ [serving build log r]) = lastBuilt log := by
        simp [lastBuilt_concat, serving, Served.built?, cost, hkept, rebuilt, hbuild]
      refine ⟨by simp [Worker.build, pureBuild, rebuilt, hbuild],
        by simp [Worker.build, pureBuild, cost, hkept, hbuild], ?_⟩
      rw [Worker.build]
      simp only [pureBuild, hbuild]
      exact { hw with set := hw.set.trans hlast.symm }

/-- What is served for some requests behind others. -/
def servings (build : List String → Except PreviewError String) :
    List Served → List StyleRequest → List Served
  | _, [] => []
  | log, r :: rest => serving build log r :: servings build (log ++ [serving build log r]) rest

theorem Remembers.serve (hw : Remembers build log w) (rs : List StyleRequest) :
    (w.serve rs).2 = servings build log rs := by
  induction rs generalizing log w with
  | nil => rfl
  | cons r rest ih =>
    obtain ⟨hresponse, hbuilds, hnext⟩ := hw.answer r
    simp only [Worker.serve, servings, ih hnext, hresponse, hbuilds, Nat.add_sub_cancel_left]
    rfl

theorem map_servings (log : List Served) (rs : List StyleRequest) :
    (servings build log rs).map (fun s => (s.request, s.response)) =
      rs.map fun r => (r, rebuilt build r) := by
  induction rs generalizing log with
  | nil => rfl
  | cons r rest ih => simp [servings, serving, ih]

/-- What a request costs depends on what was served before it. -/
theorem calls_of_servings {log earlier later : List Served} {s : Served} {rs : List StyleRequest}
    (h : servings build log rs = earlier ++ s :: later) :
    s.calls = cost (log ++ earlier) s.request := by
  induction rs generalizing log earlier with
  | nil => simp [servings] at h
  | cons r rest ih =>
    cases earlier with
    | nil =>
      obtain ⟨rfl, -⟩ := List.cons.inj h
      simp [serving]
    | cons first earlier =>
      obtain ⟨rfl, hrest⟩ := List.cons.inj h
      simpa using ih hrest

/-- **The worker's memory does not show.** Requests that come before the compiler is loaded, or
after that has failed, are refused without a call. There is one announcement. Every later request is
answered, in order and with its number, as if its stylesheet had been built for it; the compiler is
called for it unless its set is that of the last call that succeeded. -/
theorem answered_as_without_memory (build : List String → Except PreviewError String)
    (loaded : Outcome Unit) (early late : List StyleRequest) :
    let (before, announcement, after) := lifetime (loading build loaded) early late
    before = early.map turnedDown ∧
      match loaded with
      | .done () =>
        announcement = .ready ∧
          after.map (fun s => (s.request, s.response)) = late.map (fun r => (r, rebuilt build r)) ∧
          ∀ earlier s later, after = earlier ++ s :: later →
            s.calls = if lastBuilt earlier = some (keyOf s.request) then 0 else 1
      | .refused e => announcement = .failed e.message none ∧ after = late.map turnedDown
      | .crashed message =>
        announcement = .failed (PreviewError.workerStart (crashText message)).message none ∧
          after = late.map turnedDown := by
  have hearly : start.serve early = (start, early.map turnedDown) :=
    serve_of_refusing (answer_of_starting rfl) early
  rw [lifetime, hearly]
  refine ⟨rfl, ?_⟩
  cases loaded with
  | done =>
    have hw : Remembers build [] (start.load (loading build (.done ()))).1 :=
      ⟨rfl, rfl, rfl, fun _ _ h => by cases h⟩
    have hserved := hw.serve late
    exact ⟨rfl, (congrArg _ hserved).trans (map_servings [] late),
      fun earlier s later h => calls_of_servings (hserved.symm.trans h)⟩
  | refused | crashed =>
    exact ⟨rfl, congrArg Prod.snd (serve_of_refusing (answer_of_no_compiler rfl rfl) late)⟩

end LivePreview.Style.Worker
