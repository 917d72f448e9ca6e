import LivePreview.Imports.Table
import LivePreview.Message.Payload
import LivePreview.Realm.Script
/-!
# The document of the realm

The page in which a preview runs: the import map, the theme's stylesheet, a place for the utilities,
a place for the component, and the script that answers the host's messages. Text from outside is
escaped so that it cannot end the element in which it stands.
-/

namespace LivePreview.Realm.Document

/-- The page with holes for its parts. -/
def template : List String :=
  ["<!DOCTYPE html>",
   "<html lang=\"en\"__HTML_CLASS__>",
   "<head>",
   "<meta charset=\"utf-8\" />",
   "<meta name=\"viewport\" content=\"width=device-width, initial-scale=1\" />",
   "<script type=\"importmap\">",
   "__IMPORT_MAP__",
   "</script>",
   "<style id=\"__theme\">__THEME_CSS__</style>",
   "<style id=\"__utilities\"></style>",
   "<style>",
   "  #__error \x7b position: fixed; inset: 0; z-index: 9999; display: none; align-items: " ++
     "flex-end; padding: 16px; background: rgba(0,0,0,0.15); font-family: ui-monospace, " ++
     "monospace; \x7d",
   "  #__error.visible \x7b display: flex; \x7d",
   "  #__error-content \x7b width: 100%; max-height: 40%; overflow: auto; padding: 12px " ++
     "16px; border-radius: 8px; background: #1c1917; color: #fecaca; font-size: 13px; " ++
     "line-height: 1.5; white-space: pre-wrap; word-break: break-word; \x7d",
   "</style>",
   "</head>",
   "<body style=\"margin:0\">",
   "<div id=\"root\"></div>",
   "<div id=\"__error\"><div id=\"__error-content\"></div></div>",
   "<script type=\"module\">",
   "__REALM_SCRIPT__",
   "</script>",
   "</body>",
   "</html>"]

/-- Keeps a text from ending the element in which it stands. -/
def escapeRaw (text : String) : String := Text.replace "</" "<\\/" text

/-- The attribute of the page that sets its color scheme. -/
def schemeAttribute (scheme : ColorScheme) : String :=
  if scheme = .dark then " class=\"dark\"" else ""

/-- The parts of the page with the names of their holes, in the order in which they are filled; a
hole in a part that is filled in is filled by a later part. -/
def parts (table : ImportTable) (themeStyles : String) (scheme : ColorScheme) :
    List (String × String) :=
  [("__HTML_CLASS__", schemeAttribute scheme), ("__IMPORT_MAP__", escapeRaw table.importMapText),
   ("__THEME_CSS__", escapeRaw themeStyles), ("__REALM_SCRIPT__", script)]

/-- The page. -/
def text (table : ImportTable) (themeStyles : String) (scheme : ColorScheme) : String :=
  (parts table themeStyles scheme).foldl (fun page part => Text.replace part.1 part.2 page)
    (String.join (template.map (· ++ "\n")))

end LivePreview.Realm.Document
