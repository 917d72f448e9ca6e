import LivePreview.Proofs.RealmHistory
import Mathlib.Data.List.Nodup
/-!
# Who owns a loaded module

A loaded module takes up room until it is given up, and it is known by its URL. The realm owns the
current module and no other: modules are given up in the order in which they were loaded, each when
the next one has been loaded or when nothing is to be shown any more, and only the current one is
left (`Owned.order`). What stands on the page comes from that module (`Owned.tree`).

With a loader that gives every module a URL of its own, no module is lost and none is given up twice
(`modules_owned_once`).
-/
namespace LivePreview.Realm

/-- What stands on the page behind some effects. -/
def treeAfter (tree : Option MountRequest) (effects : List Effect) : Option MountRequest :=
  effects.foldl (fun tree e =>
    match e with
    | .render q => some q
    | .unmount => none
    | _ => tree) tree

/-- All that a realm does, from its announcement until nothing can arrive any more. -/
def life (turns : List Turn) (r : Realm) : List Effect := announcement ++ log turns ++ r.close.2

@[simp] theorem treeAfter_nil (tree : Option MountRequest) : treeAfter tree [] = tree := rfl

@[simp] theorem treeAfter_cons (tree : Option MountRequest) (e : Effect) (es : List Effect) :
    treeAfter tree (e :: es) =
      treeAfter
        (match e with
          | .render q => some q
          | .unmount => none
          | _ => tree) es := rfl

@[simp] theorem treeAfter_append (tree : Option MountRequest) (a b : List Effect) :
    treeAfter tree (a ++ b) = treeAfter (treeAfter tree a) b :=
  List.foldl_append

@[simp] theorem treeAfter_releaseOf (tree : Option MountRequest) (m : Option LoadedModule) :
    treeAfter tree (releaseOf m) = tree := by
  cases m <;> rfl

@[simp] theorem request_url (r : Realm) (url component : String) :
    (r.request url component).url = url := by
  unfold request
  split <;> rfl

/-- How a realm stands to the modules that it has loaded so far. -/
structure Owned (turns : List Turn) (r : Realm) : Prop where
  /-- All modules but the current one are given up, in the order in which they were loaded. -/
  order : (loads (log turns)).map (·.url) =
    releases (log turns) ++ (r.current.map (·.url)).toList
  /-- The current module is the one that was loaded last. -/
  current : ∀ m, r.current = some m → (loads (log turns)).getLast? = some m
  mounted : r.mounted = (treeAfter none (log turns)).isSome
  /-- What stands on the page was rendered last of all, and it comes from the current module. -/
  tree : ∀ q, treeAfter none (log turns) = some q →
    (requests (log turns)).getLast? = some q ∧ ∃ m, r.current = some m ∧ m.url = q.url

variable {s : Surroundings} {r r' : Realm} {i : Input} {effects : List Effect} {turns : List Turn}

theorem owned_start : Owned [] start where
  order := rfl
  current := by simp [start]
  mounted := rfl
  tree := by simp

/-- What neither loads, gives up nor shows anything leaves the books as they are. -/
theorem Owned.unchanged (ho : Owned turns r) (hcurrent : r'.current = r.current)
    (hmounted : r'.mounted = r.mounted) (hloads : loads effects = [])
    (hreleases : releases effects = []) (hrequests : requests effects = [])
    (htree : ∀ tree, treeAfter tree effects = tree) : Owned (turns ++ [⟨s, i, effects⟩]) r' where
  order := by simpa [hloads, hreleases, hcurrent] using ho.order
  current := by simpa [hloads, hcurrent] using ho.current
  mounted := by simpa [hmounted, htree] using ho.mounted
  tree := by simpa [hcurrent, hrequests, htree] using ho.tree

/-- **A turn keeps the books.** -/
theorem Owned.concat (ho : Owned turns r) (h : Outcome s r i r' effects) :
    Owned (turns ++ [⟨s, i, effects⟩]) r' := by
  cases h with
  | aside i e hi he =>
    rcases Effect.isAside_cases he with ⟨slot, css, rfl⟩ | ⟨value, rfl⟩ | ⟨method, args, rfl⟩ <;>
      exact ho.unchanged rfl rfl rfl rfl rfl fun _ => rfl
  | fault f => exact ho.unchanged rfl rfl rfl rfl rfl fun _ => rfl
  | refused text e hload => exact ho.unchanged rfl rfl rfl rfl rfl fun _ => rfl
  | bare text m hload hcomponent =>
    exact {
      order := by simp [Effect.loaded?, Effect.released?, ho.order]
      current := by simp [Effect.loaded?]
      mounted := by simp
      tree := by simp }
  | shown text m component hload hcomponent =>
    exact {
      order := by simp [Effect.loaded?, Effect.released?, ho.order]
      current := by simp [Effect.loaded?]
      mounted := by simp
      tree := by simp [Effect.request?] }
  | cleared =>
    exact {
      order := by simp [Effect.loaded?, Effect.released?, ho.order]
      current := by simp
      mounted := by simp
      tree := by simp }

/-- The books are kept in every history. -/
theorem History.owned (h : History turns r) : Owned turns r := by
  induction h with
  | start => exact owned_start
  | handle s i h ih => exact ih.concat (outcome s _ i)

/-! ## When a module is given up -/

/-- Behind the first two effects, which are none of that kind, a release has both in front. -/
theorem mem_of_release {a b : Effect} {rest before after : List Effect} {url : String}
    (ha : a.released? = none) (hb : b.released? = none)
    (h : a :: b :: rest = before ++ .release url :: after) : b ∈ before := by
  match before with
  | [] =>
    obtain ⟨rfl, -⟩ := List.cons.inj h
    cases ha
  | [_] =>
    obtain ⟨-, h⟩ := List.cons.inj h
    obtain ⟨rfl, -⟩ := List.cons.inj h
    cases hb
  | _ :: c :: before =>
    obtain ⟨-, h⟩ := List.cons.inj h
    obtain ⟨rfl, -⟩ := List.cons.inj h
    simp

/-- What is given up in a turn is the module that was the current one, and either nothing is to be
shown any more or another module has been loaded before. -/
theorem Outcome.release_cases (h : Outcome s r i r' effects) {before after : List Effect}
    {url : String} (heffects : effects = before ++ .release url :: after) :
    (∃ old, r.current = some old ∧ old.url = url) ∧
      (i = .payload .clear ∨
        ∃ text m, i = .payload (.code text) ∧ s.load text = .ok m ∧ .load m ∈ before) := by
  have hmem : url ∈ releases effects := by simp [heffects, Effect.released?]
  cases h with
  | aside i e hi he =>
    rcases Effect.isAside_cases he with ⟨slot, css, rfl⟩ | ⟨value, rfl⟩ | ⟨method, args, rfl⟩ <;>
      cases hmem
  | fault | refused => cases hmem
  | bare text m hload hcomponent =>
    refine ⟨by simpa [Effect.released?] using hmem, .inr ⟨text, m, rfl, hload, ?_⟩⟩
    exact mem_of_release rfl rfl heffects
  | shown text m component hload hcomponent =>
    refine ⟨by simpa [Effect.released?] using hmem, .inr ⟨text, m, rfl, hload, ?_⟩⟩
    exact mem_of_release rfl rfl heffects
  | cleared => exact ⟨by simpa [Effect.released?] using hmem, .inl rfl⟩

/-- Nothing is given up when a module cannot be loaded. -/
theorem Outcome.releases_of_error {text : String} {e : PreviewError}
    (h : Outcome s r (.payload (.code text)) r' effects) (hload : s.load text = .error e) :
    releases effects = [] := by
  cases h with
  | aside _ e hi he =>
    rcases Effect.isAside_cases he with ⟨slot, css, rfl⟩ | ⟨value, rfl⟩ | ⟨method, args, rfl⟩ <;>
      rfl
  | refused => rfl
  | bare _ m hm hcomponent =>
    rw [hload] at hm
    cases hm
  | shown _ m component hm hcomponent =>
    rw [hload] at hm
    cases hm

/-- If no URL comes twice, the current module is the one that is left. -/
theorem Owned.left_iff (ho : Owned turns r) (hfresh : ((loads (log turns)).map (·.url)).Nodup)
    (m : LoadedModule) :
    (m ∈ loads (log turns) ∧ m.url ∉ releases (log turns)) ↔ r.current = some m := by
  constructor
  · rintro ⟨hm, hkept⟩
    have hurl : m.url ∈ releases (log turns) ++ (r.current.map (·.url)).toList :=
      ho.order ▸ List.mem_map_of_mem hm
    rcases List.mem_append.mp hurl with hgone | hleft
    · exact absurd hgone hkept
    · obtain ⟨last, hlast, heq⟩ : ∃ last, r.current = some last ∧ last.url = m.url := by
        simpa using hleft
      have hmem : last ∈ loads (log turns) := List.mem_of_getLast? (ho.current last hlast)
      rw [hlast, List.inj_on_of_nodup_map hfresh hmem hm heq]
  · intro hm
    rw [ho.order, hm] at hfresh
    refine ⟨List.mem_of_getLast? (ho.current m hm), fun hgone => ?_⟩
    exact (List.nodup_append.mp hfresh).2.2 _ hgone m.url (by simp) rfl

/-- At the end the current module is given up as well. -/
theorem Owned.life_order (ho : Owned turns r) :
    (loads (life turns r)).map (·.url) = releases (life turns r) := by
  simp [life, announcement, close, Effect.loaded?, Effect.released?, ho.order]

/-- **Every module that was loaded is owned once.** With a loader that gives each module a URL of
its own: the current module is the only one that was loaded and not given up. No module is given up
twice. One is given up only as the module that was loaded last, when its successor has been loaded
or when nothing is to be shown any more; a module that cannot be loaded changes nothing. What stands
on the page comes from the current module. When nothing can arrive any more, every module is given
up, and still none of them twice. -/
theorem modules_owned_once (h : History turns r)
    (hfresh : ((loads (log turns)).map (·.url)).Nodup) :
    (∀ m, (m ∈ loads (log turns) ∧ m.url ∉ releases (log turns)) ↔ r.current = some m) ∧
      (releases (log turns)).Nodup ∧
      (∀ earlier t later before url after, turns = earlier ++ t :: later →
        t.effects = before ++ .release url :: after →
        (∃ old, (loads (log earlier)).getLast? = some old ∧ old.url = url) ∧
          (t.input = .payload .clear ∨
            ∃ text m, t.input = .payload (.code text) ∧ t.surroundings.load text = .ok m ∧
              .load m ∈ before)) ∧
      (∀ t ∈ turns, ∀ text e, t.input = .payload (.code text) →
        t.surroundings.load text = .error e → releases t.effects = []) ∧
      (r.mounted = (treeAfter none (log turns)).isSome ∧
        ∀ q, treeAfter none (log turns) = some q →
          (requests (log turns)).getLast? = some q ∧
            ∃ m, r.current = some m ∧ m.url = q.url ∧ m.url ∉ releases (log turns)) ∧
      (releases (life turns r)).Nodup ∧
        ∀ m ∈ loads (life turns r), m.url ∈ releases (life turns r) := by
  have ho := h.owned
  have horder := ho.order ▸ hfresh
  have hlife : loads (life turns r) = loads (log turns) := by
    simp [life, announcement, close, Effect.loaded?]
  refine ⟨ho.left_iff hfresh, (List.nodup_append.mp horder).1, ?_, ?_, ⟨ho.mounted, ?_⟩, ?_, ?_⟩
  · intro earlier t later before url after hturns heffects
    obtain ⟨r₀, h₀, hout⟩ := h.split hturns
    obtain ⟨⟨old, hold, hurl⟩, hwhy⟩ := hout.release_cases heffects
    exact ⟨⟨old, h₀.owned.current old hold, hurl⟩, hwhy⟩
  · rintro t ht text e hinput hload
    obtain ⟨earlier, later, hturns⟩ := List.append_of_mem ht
    obtain ⟨r₀, -, hout⟩ := h.split hturns
    exact (hinput ▸ hout).releases_of_error hload
  · intro q hq
    obtain ⟨hlast, m, hm, hurl⟩ := ho.tree q hq
    exact ⟨hlast, m, hm, hurl, ((ho.left_iff hfresh m).mpr hm).2⟩
  · rw [← ho.life_order, hlife]
    exact hfresh
  · intro m hm
    rw [← ho.life_order]
    exact List.mem_map_of_mem hm

/-- Between two modules a third one cannot be loaded, and the component of the last one fails. -/
theorem modules_owned_once_of_failed_load :
    let s : Surroundings :=
      { load := fun text =>
          if text = "bad" then .error (.moduleLoad "Unexpected token")
          else .ok ⟨"blob:" ++ text, [⟨"default", true⟩]⟩
        render := fun q => if q.url = "blob:b" then some ⟨"boom", none⟩ else none }
    ∃ turns r, History turns r ∧
      turns.map (fun t => (t.surroundings, t.input)) =
        [(s, .payload (.code "a")), (s, .payload (.code "bad")), (s, .payload (.code "b"))] ∧
      ((loads (log turns)).map (·.url)).Nodup ∧
      (loads (log turns)).map (·.url) = ["blob:a", "blob:b"] ∧
      releases (log turns) = ["blob:a"] ∧
      (∃ q m, treeAfter none (log turns) = some q ∧ r.current = some m ∧ m.url = q.url ∧
        m.url ∉ releases (log turns)) ∧
      (releases (life turns r)).Nodup ∧
        ∀ m ∈ loads (life turns r), m.url ∈ releases (life turns r) := by
  intro s
  obtain ⟨turns, r, h, hinputs, hloads, hreleases, hshown⟩ : ∃ turns r, History turns r ∧
      turns.map (fun t => (t.surroundings, t.input)) =
        [(s, .payload (.code "a")), (s, .payload (.code "bad")), (s, .payload (.code "b"))] ∧
      (loads (log turns)).map (·.url) = ["blob:a", "blob:b"] ∧
      releases (log turns) = ["blob:a"] ∧ (treeAfter none (log turns)).isSome :=
    ⟨_, _, ((History.start.handle s (.payload (.code "a"))).handle s
      (.payload (.code "bad"))).handle s (.payload (.code "b")), rfl, rfl, rfl, rfl⟩
  have hfresh : ((loads (log turns)).map (·.url)).Nodup := by
    rw [hloads]
    decide
  obtain ⟨-, -, -, -, ⟨-, htree⟩, hlife⟩ := modules_owned_once h hfresh
  obtain ⟨q, hq⟩ := Option.isSome_iff_exists.mp hshown
  obtain ⟨-, m, hm, hurl, hkept⟩ := htree q hq
  exact ⟨turns, r, h, hinputs, hfresh, hloads, hreleases, ⟨q, m, hq, hm, hurl, hkept⟩, hlife⟩

end LivePreview.Realm
