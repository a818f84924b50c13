/-
# The package

What an installer is told about the program.  Most of it is fixed; three fields
are taken from the folder that the package stands in:

| field | from |
| --- | --- |
| version | the first line of `tinyscript/__init__.py` that starts with `__version__`, carried out |
| long description | `README.md` |
| packages | the directories with an `__init__.py`, except `tests` and what is in it |

A runtime that is too old is refused before any file is read.
-/

import Lexis.Folder
import Lexis.Package.Assignment
import Lexis.Text.LineStream
import Lexis.Vocabulary

namespace Lexis
namespace Package

/-- The version of the program. -/
def version : String := "0.1.0"

def author : String := "xwest"

def email : String := "dev@neuralscript.org"

def license : String := "MIT"

/-- What an installer is told. -/
structure Manifest where
  name : String
  version : Literal
  description : String
  longDescription : String
  longDescriptionType : String
  author : String
  authorEmail : String
  license : String
  packages : List String
  includesData : Bool
  runtime : String
  requirements : List String
  extras : List (String × List String)
  entryPoints : List (String × List String)
  classifiers : List String
  keywords : List String
  zipSafe : Bool

/-- Why there is no manifest. -/
inductive ManifestError where
  /-- The runtime is too old. -/
  | oldRuntime
  /-- A file is no text. -/
  | undecodable (fault : Utf8.Fault)
  /-- The version line reads a name that has no value. -/
  | undefinedName (name : String)
  deriving DecidableEq, Repr

/-- The wording of an error. -/
def ManifestError.message : ManifestError → String
  | .oldRuntime => "TinyScript requires Python 3.8 or later"
  | .undecodable fault => fault.message
  | .undefinedName name => "name '" ++ name ++ "' is not defined"

/-- The oldest runtime that the package works with. -/
def oldestRuntime : List Int := [3, 8]

/-! ### The version -/

/-- The name that a version is assigned to. -/
def versionName : String := "__version__"

/-- The version that a line sets, if it sets one. -/
def versionOfLine (line : List Char) : Except ManifestError (Option Literal) :=
  match run [] (Statement.ofLine line) with
  | .error name => .error (.undefinedName name)
  | .ok values => .ok (values.lookup versionName)

/-- The version from the lines of a file: the first line that starts with its
name decides, and without it there is none. -/
def versionOf (lines : LineStream) : Except ManifestError (Option Literal) :=
  match lines.lines.find? (versionName.toList.isPrefixOf ·), lines.fault with
  | some line, _ => versionOfLine line
  | none, some fault => .error (.undecodable fault)
  | none, none => .ok none

/-- The version of the package in a folder. -/
def versionIn (folder : Folder) : Except ManifestError Literal :=
  match folder.file? ["tinyscript", "__init__.py"] with
  | none => .ok (.text version)
  | some content =>
    (versionOf (.ofFile content)).map fun stated => stated.getD (.text version)

/-! ### The long description and the packages -/

/-- The text of the file that introduces the package, with unified line ends. -/
def longDescriptionIn (folder : Folder) : Except ManifestError String :=
  match folder.file? ["README.md"] with
  | none => .ok ""
  | some content =>
    match Utf8.decode content with
    | .error fault => .error (.undecodable fault)
    | .ok text => .ok (String.ofList (unifyEnds text))

/-- The paths of a path's directories and its own, the topmost first. -/
def pathsTo : List String → List (List String)
  | [] => []
  | name :: names => [name] :: (pathsTo names).map (name :: ·)

/-- Whether a directory itself counts as a package. -/
def isPackageDirectory (folder : Folder) (path : List String) : Bool :=
  (path.getLast?.all fun name => !name.toList.contains '.') &&
    (folder.file? (path ++ ["__init__.py"])).isSome

/-- Whether a package is one of the tests. -/
def isTests (dotted : String) : Bool := dotted == "tests" || dotted.startsWith "tests."

/-- The packages in a folder by their dotted paths, in the order of code points. -/
def packagesIn (folder : Folder) : List String :=
  let paths := (folder.entries.flatMap fun entry => pathsTo entry.1).eraseDups
  let packages := paths.filter fun path => (pathsTo path).all (isPackageDirectory folder)
  ((packages.map ".".intercalate).filter (!isTests ·)).mergeSort fun s t => decide (s ≤ t)

/-- The manifest of the package in a folder, for a runtime of this version. -/
def manifestIn (runtime : List Int) (folder : Folder) : Except ManifestError Manifest :=
  if runtime < oldestRuntime then .error .oldRuntime
  else
    match versionIn folder, longDescriptionIn folder with
    | .error error, _ => .error error
    | _, .error error => .error error
    | .ok version, .ok longDescription =>
      .ok {
        name := "tinyscript-scanner"
        version
        description := "A hand-written lexical scanner for the TinyScript scripting language"
        longDescription
        longDescriptionType := "text/markdown"
        author
        authorEmail := email
        license
        packages := packagesIn folder
        includesData := true
        runtime := ">=3.8"
        requirements := []
        extras := [
          ("dev", ["pytest>=7.4.0", "pytest-cov>=4.1.0", "black>=23.3.0", "flake8>=6.0.0",
            "mypy>=1.4.0", "isort>=5.12.0"]),
          ("test", ["pytest>=7.4.0", "pytest-cov>=4.1.0"])]
        entryPoints := [("console_scripts", ["tinyscript=tinyscript.cli:main"])]
        classifiers := [
          "Development Status :: 3 - Alpha",
          "Intended Audience :: Developers",
          "License :: OSI Approved :: MIT License",
          "Operating System :: OS Independent",
          "Programming Language :: Python :: 3",
          "Programming Language :: Python :: 3.8",
          "Programming Language :: Python :: 3.9",
          "Programming Language :: Python :: 3.10",
          "Programming Language :: Python :: 3.11",
          "Programming Language :: Python :: 3.12",
          "Topic :: Software Development :: Compilers"]
        keywords := ["lexer", "scanner", "tokenizer", "compiler", "programming-language"]
        zipSafe := false
      }

end Package
end Lexis
