/-!
# Loaded modules

A module that was loaded is known by its URL and its exports. The text behind a URL lives until the
URL is revoked.
-/

namespace LivePreview.Realm

/-- An export of a module. -/
structure ModuleExport where
  name : String
  callable : Bool
deriving DecidableEq, Repr

/-- A loaded module, with its exports in order. -/
structure LoadedModule where
  url : String
  exports : List ModuleExport
deriving DecidableEq, Repr

namespace LoadedModule

/-- The export that is shown: the default one if there is one, or else the first that can be
called. -/
def componentExport? (m : LoadedModule) : Option ModuleExport :=
  (m.exports.find? fun e => e.name = "default").or (m.exports.find? (·.callable))

/-- The name of the component, if what is shown can be called. -/
def component? (m : LoadedModule) : Option String :=
  (m.componentExport?.filter (·.callable)).map (·.name)

end LoadedModule

/-- Texts with URLs of their own. -/
structure ObjectUrls where
  live : List (String × String)
deriving DecidableEq, Repr

namespace ObjectUrls

def empty : ObjectUrls := ⟨[]⟩

/-- The URL for a token. -/
def url (token : String) : String := "blob:preview/" ++ token

/-- Gives a text a URL; the token has not been used before. -/
def create (u : ObjectUrls) (token text : String) : ObjectUrls × String :=
  (⟨u.live ++ [(url token, text)]⟩, url token)

/-- The text behind a URL. -/
def get? (u : ObjectUrls) (url : String) : Option String :=
  (u.live.find? fun e => e.1 = url).map (·.2)

/-- Gives up a URL, if it is in use. -/
def revoke? (u : ObjectUrls) (url : String) : Option ObjectUrls :=
  if (u.get? url).isSome then some ⟨u.live.filter fun e => e.1 ≠ url⟩ else none

end ObjectUrls

end LivePreview.Realm
