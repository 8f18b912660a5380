import Stencil.Template

/-!
# Starter files

The texts of the first manifest and the first feed, for those who have none. The manifest describes
the default template, and the feed has one declaration that carries its marker.
-/

namespace Stencil.Starter

/-- The marker of the starter files. -/
def marker : String :=
  "com.bert.annotations.CusAnnotation"

/-- A text whose lines are given. -/
def ofLines (lines : List String) : String :=
  String.join (lines.map (· ++ "\n"))

/-- The first manifest. -/
def manifestText : String :=
  ofLines [
    "[generator]",
    "marker = \"" ++ marker ++ "\"",
    "strategy = \"structured\"",
    "",
    "[template]",
    "class_name = \"" ++ ClassTemplate.defaultClassName ++ "\"",
    "doc = \"" ++ ClassTemplate.defaultDoc ++ "\"",
    "modifiers = [\"public\", \"final\"]",
    "",
    "[[template.fields]]",
    "name = \"age\"",
    "type = \"int\"",
    "modifiers = [\"private\"]",
    "",
    "[[template.methods]]",
    "name = \"getAge\"",
    "returns = \"void\"",
    "modifiers = [\"private\"]",
    "body = []"]

/-- The first feed. -/
def feedText : String :=
  ofLines [
    "[[rounds]]",
    "declarations = [",
    "  \x7b marker = \"" ++ marker ++
      "\", namespace = \"com.example\", element = \"MainActivity\" \x7d,",
    "]"]

/-- The starter files by name, in the order in which they are written. -/
def files : List (String × String) :=
  [("etch.toml", manifestText), ("rounds.toml", feedText)]

end Stencil.Starter
