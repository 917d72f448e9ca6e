import LivePreview.Text.Search
/-!
# The script of the realm

The module that runs in the page. It loads one module at a time in the order of arrival, shows its
component under an error boundary, hands what is logged on to the host, and reports every failure
once.
-/

namespace LivePreview.Realm.Document

/-- What stands in front of messages in the page's own console. -/
def consoleMark : String := "[preview]"

/-- The lines of the script. -/
def scriptLines : List String :=
  ["import React from \"react\";",
   "import \x7b createRoot \x7d from \"react-dom/client\";",
   "",
   "const root = createRoot(document.getElementById(\"root\"));",
   "const post = (msg) => window.parent.postMessage(msg, \"*\");",
   "let rootKey = 0;",
   "let mounted = false;",
   "let remountNext = false;",
   "let currentUrl = null;",
   "let pending = Promise.resolve();",
   "",
   "// Loads and clears run one at a time in arrival order, so a slow import can",
   "// never land on top of a newer module.",
   "function enqueue(task) \x7b",
   "  pending = pending.then(task).catch((err) => reportFault(err.message, err.stack));",
   "\x7d",
   "",
   "function showError(message) \x7b",
   "  document.getElementById(\"__error-content\").textContent = message;",
   "  document.getElementById(\"__error\").classList.add(\"visible\");",
   "\x7d",
   "",
   "function hideError() \x7b",
   "  document.getElementById(\"__error\").classList.remove(\"visible\");",
   "\x7d",
   "",
   "function reportFault(message, stack) \x7b",
   "  remountNext = true;",
   "  post(\x7b type: \"runtime-error\", message, stack: stack || \"\" \x7d);",
   "\x7d",
   "",
   "class ErrorBoundary extends React.Component \x7b",
   "  constructor(props) \x7b super(props); this.state = \x7b error: null \x7d; \x7d",
   "  static getDerivedStateFromError(error) \x7b return \x7b error \x7d; \x7d",
   "  componentDidCatch(error) \x7b reportFault(error.message, error.stack); \x7d",
   "  render() \x7b",
   "    if (this.state.error) \x7b",
   "      return React.createElement(\"div\", \x7b style: \x7b padding: 24, fontFamily: " ++
     "\"ui-monospace, monospace\", fontSize: 13 \x7d \x7d, this.state.error.message);",
   "    \x7d",
   "    return this.props.children;",
   "  \x7d",
   "\x7d",
   "",
   "function stringify(value) \x7b",
   "  if (typeof value === \"string\") return value;",
   "  try \x7b return JSON.stringify(value); \x7d catch \x7b return String(value); \x7d",
   "\x7d",
   "",
   "for (const method of [\"log\", \"warn\", \"error\", \"info\"]) \x7b",
   "  const original = console[method].bind(console);",
   "  console[method] = (...args) => \x7b",
   "    original(\"" ++ consoleMark ++ "\", ...args);",
   "    post(\x7b type: \"console\", method, args: args.map(stringify) \x7d);",
   "  \x7d;",
   "\x7d",
   "",
   "async function loadAndRender(js) \x7b",
   "  hideError();",
   "  const url = URL.createObjectURL(new Blob([js], \x7b type: " ++
     "\"application/javascript\" \x7d));",
   "  let mod;",
   "  try \x7b",
   "    mod = await import(url);",
   "  \x7d catch (err) \x7b",
   "    URL.revokeObjectURL(url);",
   "    showError(err.message);",
   "    reportFault(err.message, err.stack);",
   "    return;",
   "  \x7d",
   "  if (currentUrl) URL.revokeObjectURL(currentUrl);",
   "  currentUrl = url;",
   "",
   "  const Comp = \"default\" in mod ? mod.default : Object.values(mod).find((v) => " ++
     "typeof v === \"function\");",
   "  if (typeof Comp !== \"function\") \x7b",
   "    root.render(null);",
   "    mounted = false;",
   "    post(\x7b type: \"render-complete\" \x7d);",
   "    return;",
   "  \x7d",
   "  if (!mounted || remountNext) \x7b",
   "    rootKey += 1;",
   "    remountNext = false;",
   "  \x7d",
   "  root.render(React.createElement(ErrorBoundary, \x7b key: rootKey \x7d, " ++
     "React.createElement(Comp)));",
   "  mounted = true;",
   "  post(\x7b type: \"render-complete\" \x7d);",
   "\x7d",
   "",
   "function clearMount() \x7b",
   "  hideError();",
   "  root.render(null);",
   "  mounted = false;",
   "  remountNext = false;",
   "  if (currentUrl) \x7b URL.revokeObjectURL(currentUrl); currentUrl = null; \x7d",
   "\x7d",
   "",
   "window.addEventListener(\"message\", (e) => \x7b",
   "  const msg = e.data || \x7b\x7d;",
   "  switch (msg.type) \x7b",
   "    case \"code\":",
   "      enqueue(() => loadAndRender(msg.js));",
   "      break;",
   "    case \"clear\":",
   "      enqueue(clearMount);",
   "      break;",
   "    case \"theme-css\":",
   "      document.getElementById(\"__theme\").textContent = msg.css;",
   "      break;",
   "    case \"tailwind-css\":",
   "      document.getElementById(\"__utilities\").textContent = msg.css;",
   "      break;",
   "    case \"theme\":",
   "      document.documentElement.classList.toggle(\"dark\", msg.value === \"dark\");",
   "      break;",
   "  \x7d",
   "\x7d);",
   "",
   "window.onerror = (message, _source, _line, _col, error) => \x7b",
   "  showError(String(message));",
   "  reportFault(String(message), error && error.stack);",
   "\x7d;",
   "",
   "window.onunhandledrejection = (e) => \x7b",
   "  const message = (e.reason && e.reason.message) || String(e.reason);",
   "  showError(message);",
   "  reportFault(message, e.reason && e.reason.stack);",
   "\x7d;",
   "",
   "post(\x7b type: \"iframe-ready\" \x7d);"]

/-- The script. -/
def script : String := Text.joinWith "\n" scriptLines

end LivePreview.Realm.Document
