import Stencil.Output.Tree

/-!
# Compile checks

Whether what was generated into a fresh directory compiles. What compiles it is left open; there is
nothing to compile in a directory without Java source files.
-/

namespace Stencil

/-- Why sources do not compile. -/
structure CompileError where
  message : String
  output : String
deriving Repr, DecidableEq

/-- The error in words. -/
def CompileError.text (e : CompileError) : String :=
  e.message ++ "\n\nOutput:\n" ++ e.output

/-- Whether a file name has the extension of Java source files. -/
def isJavaFile (name : String) : Bool :=
  name.length > 5 && ".java".toList.isSuffixOf name.toList

/-- The places of the Java source files below a tree's home. -/
def javaFiles (t : Tree) : List Location :=
  t.nodes.filterMap fun (place, node) =>
    match node with
    | .file _ => if t.home.isAbove place && isJavaFile place.name then some place else none
    | .directory => none

/-- Compiles the Java source files of a tree, of which there must be some. The directory is for the
message. -/
def compileAll (directory : String) (compile : List Location → Except CompileError Unit) (t : Tree) :
    Except CompileError Unit :=
  match javaFiles t with
  | [] => .error ⟨"No .java files under " ++ directory, ""⟩
  | sources => compile sources

/-- Generates a tree and checks it. Tells in words what went wrong. -/
def checkCompiles (generate : Except String Tree) (checker : Tree → Except CompileError Unit) :
    Except String Unit := do
  let t ← generate
  (checker t).mapError fun e => "Compile check failed: " ++ e.text

end Stencil
