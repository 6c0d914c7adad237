import Cyclomatic.Text.Unicode
import Cyclomatic.Files.Path

/-!
The languages that can be analysed, their tags and their file extensions.

A language tag is trimmed and lowercased (with full Unicode case mapping) and then looked up in
a table of aliases, so `" JS "` and `JavaScriptReact` both name JavaScript. A file's language is
read off its extension, lowercased; a file with no known extension has none.
-/

namespace Cyclomatic

inductive Language where
  | javascript
  | typescript
  | tsx
deriving Repr, DecidableEq, Inhabited

namespace Language

def name : Language → String
  | .javascript => "javascript"
  | .typescript => "typescript"
  | .tsx => "tsx"

def all : List Language := [.javascript, .tsx, .typescript]

def aliases : List (String × String) :=
  [("js", "javascript"), ("jsx", "javascript"), ("mjs", "javascript"), ("cjs", "javascript"),
   ("javascriptreact", "javascript"), ("ts", "typescript"), ("mts", "typescript"),
   ("cts", "typescript"), ("typescriptreact", "tsx")]

/-- A tag trimmed, lowercased and with an alias replaced by the tag it stands for. -/
def normalize (tag : String) : String :=
  let t := Unicode.lower (Unicode.trim tag)
  (aliases.lookup t).getD t

def ofTag (tag : String) : Option Language :=
  let t := normalize tag
  all.find? fun l => l.name == t

def extensions : Language → List String
  | .javascript => [".js", ".jsx", ".mjs", ".cjs"]
  | .typescript => [".ts", ".mts", ".cts"]
  | .tsx => [".tsx"]

/-- The language of a file, from its lowercased extension. -/
def ofPath (path : String) : Option Language :=
  let ext := Unicode.lower (Path.extension path)
  [Language.javascript, .typescript, .tsx].find? fun l => (l.extensions.contains ext)

end Language

end Cyclomatic
