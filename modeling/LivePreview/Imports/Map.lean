import LivePreview.Json.Decode
/-!
# The import map

What a page embeds to tell its browser where modules are: keys with URLs, ordered by key.
-/

namespace LivePreview

/-- Keys with their URLs, ordered by key. -/
structure ImportMap where
  entries : List (String × String)
deriving DecidableEq, Repr

namespace ImportMap

/-- Sets an entry of an ordered list. -/
def setEntry (key url : String) : List (String × String) → List (String × String)
  | [] => [(key, url)]
  | (k, u) :: r =>
    if key < k then (key, url) :: (k, u) :: r
    else if k = key then (key, url) :: r
    else (k, u) :: setEntry key url r

/-- The map of some entries; of two entries with one key the later one counts. -/
def ofList (entries : List (String × String)) : ImportMap :=
  ⟨entries.foldl (fun acc e => setEntry e.1 e.2 acc) []⟩

def toJson (m : ImportMap) : Json :=
  .obj [("imports", .obj (m.entries.map fun e => (e.1, .str e.2)))]

/-- The entries of an object. -/
def entries? (j : Json) : Option (List (String × String)) :=
  j.obj?.bind fun members => members.mapM fun m => m.2.str?.map fun url => (m.1, url)

def ofJson? (j : Json) : Option ImportMap := do
  let r ← j.record? ["imports"]
  return ofList (← r.required "imports" entries?)

end ImportMap

end LivePreview
