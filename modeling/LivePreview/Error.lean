/-!
# Why a service refuses

What is wrong with a source is a diagnostic and no failure; everything else that can go wrong is one
of these causes.
-/

namespace LivePreview

/-- Why a service refuses. -/
inductive PreviewError where
  | configuration
  | unknownStylesheet (id : String)
  | compilerNotInitialized
  | workerStart (detail : String)
  | compilation (detail : String)
  | moduleLoad (detail : String)
  | channelClosed (channel : String)
  | tooLarge (what : String) (limit : Nat)
  | missing (what : String)
  | invalidUrl (url reason : String)
  | privateHost (host : String)
  | malformedRegistry (detail : String)
  | noUsableFile
  | malformedIndex (detail : String)
  | unreadable (path : String)
  | snippetNotFound (id : String)
deriving DecidableEq, Repr

/-- The text that is shown. -/
def PreviewError.message : PreviewError → String
  | configuration => "Invalid engine configuration"
  | unknownStylesheet id => "Unknown stylesheet: " ++ id
  | compilerNotInitialized => "Compiler not initialized"
  | workerStart detail => "CSS worker failed to initialize: " ++ detail
  | compilation detail => "CSS compilation failed: " ++ detail
  | moduleLoad detail => "Failed to load module: " ++ detail
  | channelClosed channel => "Channel '" ++ channel ++ "' is closed"
  | tooLarge what limit => what ++ " exceeds " ++ toString limit ++ " byte limit"
  | missing what => what ++ " is required"
  | invalidUrl url reason => "Invalid URL '" ++ url ++ "': " ++ reason
  | privateHost host => "Host '" ++ host ++ "' is not allowed"
  | malformedRegistry detail => "Malformed registry document: " ++ detail
  | noUsableFile => "Registry item has no usable file"
  | malformedIndex detail => "Malformed example index: " ++ detail
  | unreadable path => "Failed to read '" ++ path ++ "'"
  | snippetNotFound id => "Snippet '" ++ id ++ "' not found"

end LivePreview
