import Stencil.Modifier
import Stencil.Request
import Stencil.Template

/-!
# Source text straight from a template

The texts of a template, joined as they are: nothing is checked, types and names are taken over,
and there is no indentation but that of statements. Every statement has a line of its own, so that
a comment at the end of one does not swallow the next.
-/

namespace Stencil.Java.RawText

/-- The package declaration; nothing in the unnamed package. -/
def packageText (package : String) : String :=
  if package.isEmpty then "" else "package " ++ package ++ ";\n"

/-- A documentation text with every line but the first behind a star of its own. -/
def starredText (doc : String) : String :=
  String.ofList (doc.toList.flatMap fun c => if c = '\n' then ['\n', ' ', '*', ' '] else [c])

/-- The documentation comment. -/
def docText (doc : String) : String :=
  "/** " ++ starredText doc ++ " */\n"

/-- The words before a declaration. -/
def modifiersText (ms : List Modifier) : String :=
  (ModifierSet.ofList ms).text

/-- A field. -/
def fieldText (f : FieldTemplate) : String :=
  modifiersText f.modifiers ++ f.type ++ " " ++ f.name ++ ";\n"

/-- A method: on one line if it has no statement. -/
def methodText (m : MethodTemplate) : String :=
  let header := modifiersText m.modifiers ++ m.returns ++ " " ++ m.name ++ "()"
  if m.body.isEmpty then header ++ " \x7b\x7d\n"
  else
    header ++ " \x7b\n" ++ String.join (m.body.map fun statement => "  " ++ statement ++ "\n") ++
      "\x7d\n"

/-- The source text that answers a request according to a template. -/
def text (t : ClassTemplate) (r : Request) : String :=
  packageText r.package ++
    (t.shownDoc?.map docText).getD "" ++
    (modifiersText t.modifiers ++ "class " ++ r.className ++ " \x7b\n") ++
    String.join (t.fields.map fieldText) ++
    String.join (t.methods.map methodText) ++
    "\x7d\n"

end Stencil.Java.RawText
