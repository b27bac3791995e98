import PageObjects.Batch.Machine
import PageObjects.Shape.Reading

/-!
# Configuration of a batch run

A run is configured by settings, each a value under its name; settings that are not given are taken
from the environment, or have a default. Settings of other names are passed over. The machine is not
set, but is what the run finds. A `Config` is the `RunnerConfig` of the specification (10), and
`Config.ofEnvironment` reads the variables of its `from_env`.
-/

namespace PageObjects

/-- The configuration of a run, and the machine that it runs on. -/
structure Config where
  sourceDir : Path
  outputDir : Path
  moduleName : Option String := none
  packageRoot : String := "pageobjects"
  maxWorkers : Int := 4
  filePatterns : List String := ["*.utam.json"]
  machine : Machine := {}
  deriving Inhabited

namespace Config

/-- A path, given as a text. -/
def readPath : Reader Path
  | .text chars => .done (.ofText chars)
  | _ => .fault .notPath

/-- A number of workers: at least one. -/
def readWorkers : Reader Int := fun v =>
  match readInteger v with
  | .done n => if 1 ≤ n then .done n else .fault (.below 1)
  | .refused problems => .refused problems

/-- The configuration that settings give. -/
def readFields (fields : Fields) : Reading Config :=
  (fun sourceDir outputDir moduleName packageRoot maxWorkers filePatterns =>
      { sourceDir, outputDir, moduleName, packageRoot, maxWorkers, filePatterns })
    <$> fields.required (.plain "source_dir") readPath
    <*> fields.required (.plain "output_dir") readPath
    <*> fields.optional (.plain "module_name") none (readOptional readText)
    <*> fields.optional (.plain "package_root") "pageobjects" readText
    <*> fields.optional (.plain "max_workers") 4 readWorkers
    <*> fields.optional (.plain "file_patterns") ["*.utam.json"] (readTuple readText)

/-- The configuration that settings give, or the problems with them. -/
def ofSettings (settings : Fields) : Except (List Problem) Config :=
  match readFields settings with
  | .done config => .ok config
  | .refused problems => .error problems

/-- The settings that the environment can give, each with the name of its variable. -/
def environmentNames : List (String × String) :=
  [("source_dir", "PAGEC_SOURCE_DIR"), ("output_dir", "PAGEC_OUTPUT_DIR"),
    ("module_name", "PAGEC_MODULE"), ("package_root", "PAGEC_PACKAGE_ROOT"),
    ("max_workers", "PAGEC_WORKERS")]

/-- The settings that an environment gives. -/
def ofEnvironment (environment : List (String × String)) : Fields :=
  environmentNames.filterMap fun (setting, name) =>
    (environment.lookup name).map fun value => (setting, .text value)

/-- The settings with those of the environment where they are null or not given. -/
def withEnvironment (environment : List (String × String)) (settings : Fields) : Fields :=
  (settings.filter fun setting => match setting.2 with | .null => false | _ => true).foldl
    (fun all setting => all.set setting.1 setting.2) (ofEnvironment environment)

/-- The package of all generated page objects: the module and the segment after it. -/
def basePackage (c : Config) : String :=
  let moduleName := ResultType.packageOfModule (c.moduleName.getD "")
  ".".intercalate ([moduleName, c.packageRoot].filter fun part => !part.isEmpty)

/-- The headline of the problems with settings. -/
def headline (problems : List Problem) : String := PageObjects.headline "RunnerConfig" problems

end Config
end PageObjects
