import TypeLineage.Json.Basic

/-! # Compiler options

    Each option of a project configuration is declared with the kind of value
    it takes.  Null is a value of every kind. -/

namespace TypeLineage.Project

/-- The kind of value an option takes. -/
inductive OptionKind where
  | boolean
  | text
  /-- A text that leads to a file or directory. -/
  | path
  | number
  /-- A list; an item is told of by its own name. -/
  | list (item : String) (element : OptionKind)
  | object
  | choice (words : List String)
  /-- Not an option of a configuration, only of a command line. -/
  | commandLine
  deriving Repr

/-- The libraries that may be asked for. -/
def libraryWords : List String := [
  "es5", "es6", "es2015", "es7", "es2016", "es2017", "es2018", "es2019", "es2020", "es2021",
  "es2022", "es2023", "es2024", "esnext", "dom", "dom.iterable", "dom.asynciterable",
  "webworker", "webworker.importscripts", "webworker.iterable", "webworker.asynciterable",
  "scripthost", "es2015.core", "es2015.collection", "es2015.generator", "es2015.iterable",
  "es2015.promise", "es2015.proxy", "es2015.reflect", "es2015.symbol", "es2015.symbol.wellknown",
  "es2016.array.include", "es2016.intl", "es2017.arraybuffer", "es2017.date", "es2017.object",
  "es2017.sharedmemory", "es2017.string", "es2017.intl", "es2017.typedarrays",
  "es2018.asyncgenerator", "es2018.asynciterable", "es2018.intl", "es2018.promise",
  "es2018.regexp", "es2019.array", "es2019.object", "es2019.string", "es2019.symbol",
  "es2019.intl", "es2020.bigint", "es2020.date", "es2020.promise", "es2020.sharedmemory",
  "es2020.string", "es2020.symbol.wellknown", "es2020.intl", "es2020.number", "es2021.promise",
  "es2021.string", "es2021.weakref", "es2021.intl", "es2022.array", "es2022.error",
  "es2022.intl", "es2022.object", "es2022.string", "es2022.regexp", "es2023.array",
  "es2023.collection", "es2023.intl", "es2024.arraybuffer", "es2024.collection", "es2024.object",
  "es2024.promise", "es2024.regexp", "es2024.sharedmemory", "es2024.string", "esnext.array",
  "esnext.collection", "esnext.symbol", "esnext.asynciterable", "esnext.intl",
  "esnext.disposable", "esnext.bigint", "esnext.string", "esnext.promise", "esnext.weakref",
  "esnext.decorators", "esnext.object", "esnext.regexp", "esnext.iterator", "esnext.float16",
  "esnext.error", "esnext.sharedmemory", "decorators", "decorators.legacy"]

/-- The options in the order of their declaration. -/
def declaredOptions : List (String × OptionKind) := [
  ("help", .commandLine), ("watch", .commandLine), ("preserveWatchOutput", .boolean),
  ("listFiles", .boolean), ("explainFiles", .boolean), ("listEmittedFiles", .boolean),
  ("pretty", .boolean), ("traceResolution", .boolean), ("diagnostics", .boolean),
  ("extendedDiagnostics", .boolean), ("generateCpuProfile", .path), ("generateTrace", .path),
  ("incremental", .boolean), ("declaration", .boolean), ("declarationMap", .boolean),
  ("emitDeclarationOnly", .boolean), ("sourceMap", .boolean), ("inlineSourceMap", .boolean),
  ("noCheck", .boolean), ("noEmit", .boolean),
  ("assumeChangesOnlyAffectDirectDependencies", .boolean), ("locale", .commandLine),
  ("all", .commandLine), ("version", .commandLine), ("init", .commandLine),
  ("project", .commandLine), ("showConfig", .commandLine), ("listFilesOnly", .commandLine),
  ("target", .choice ["es3", "es5", "es6", "es2015", "es2016", "es2017", "es2018", "es2019",
    "es2020", "es2021", "es2022", "es2023", "es2024", "esnext"]),
  ("module", .choice ["none", "commonjs", "amd", "system", "umd", "es6", "es2015", "es2020",
    "es2022", "esnext", "node16", "node18", "node20", "nodenext", "preserve"]),
  ("lib", .list "lib" (.choice libraryWords)), ("allowJs", .boolean), ("checkJs", .boolean),
  ("jsx", .choice ["preserve", "react-native", "react-jsx", "react-jsxdev", "react"]),
  ("outFile", .path), ("outDir", .path), ("rootDir", .path), ("composite", .boolean),
  ("tsBuildInfoFile", .path), ("removeComments", .boolean), ("importHelpers", .boolean),
  ("importsNotUsedAsValues", .choice ["remove", "preserve", "error"]),
  ("downlevelIteration", .boolean), ("isolatedModules", .boolean),
  ("verbatimModuleSyntax", .boolean), ("isolatedDeclarations", .boolean),
  ("erasableSyntaxOnly", .boolean), ("libReplacement", .boolean), ("strict", .boolean),
  ("noImplicitAny", .boolean), ("strictNullChecks", .boolean),
  ("strictFunctionTypes", .boolean), ("strictBindCallApply", .boolean),
  ("strictPropertyInitialization", .boolean), ("strictBuiltinIteratorReturn", .boolean),
  ("noImplicitThis", .boolean), ("useUnknownInCatchVariables", .boolean),
  ("alwaysStrict", .boolean), ("noUnusedLocals", .boolean), ("noUnusedParameters", .boolean),
  ("exactOptionalPropertyTypes", .boolean), ("noImplicitReturns", .boolean),
  ("noFallthroughCasesInSwitch", .boolean), ("noUncheckedIndexedAccess", .boolean),
  ("noImplicitOverride", .boolean), ("noPropertyAccessFromIndexSignature", .boolean),
  ("moduleResolution", .choice ["node10", "node", "classic", "node16", "nodenext", "bundler"]),
  ("baseUrl", .path), ("paths", .object), ("rootDirs", .list "rootDirs" .path), ("typeRoots", .list "typeRoots" .path),
  ("types", .list "types" .text), ("allowSyntheticDefaultImports", .boolean),
  ("esModuleInterop", .boolean), ("preserveSymlinks", .boolean), ("allowUmdGlobalAccess", .boolean),
  ("moduleSuffixes", .list "suffix" .text), ("allowImportingTsExtensions", .boolean),
  ("rewriteRelativeImportExtensions", .boolean), ("resolvePackageJsonExports", .boolean),
  ("resolvePackageJsonImports", .boolean), ("customConditions", .list "condition" .text),
  ("noUncheckedSideEffectImports", .boolean), ("sourceRoot", .text), ("mapRoot", .text),
  ("inlineSources", .boolean), ("experimentalDecorators", .boolean),
  ("emitDecoratorMetadata", .boolean), ("jsxFactory", .text), ("jsxFragmentFactory", .text),
  ("jsxImportSource", .text), ("resolveJsonModule", .boolean),
  ("allowArbitraryExtensions", .boolean), ("out", .text), ("reactNamespace", .text),
  ("skipDefaultLibCheck", .boolean), ("charset", .text), ("emitBOM", .boolean),
  ("newLine", .choice ["crlf", "lf"]), ("noErrorTruncation", .boolean), ("noLib", .boolean),
  ("noResolve", .boolean), ("stripInternal", .boolean), ("disableSizeLimit", .boolean),
  ("disableSourceOfProjectReferenceRedirect", .boolean), ("disableSolutionSearching", .boolean),
  ("disableReferencedProjectLoad", .boolean), ("noImplicitUseStrict", .boolean),
  ("noEmitHelpers", .boolean), ("noEmitOnError", .boolean), ("preserveConstEnums", .boolean),
  ("declarationDir", .path), ("skipLibCheck", .boolean), ("allowUnusedLabels", .boolean),
  ("allowUnreachableCode", .boolean), ("suppressExcessPropertyErrors", .boolean),
  ("suppressImplicitAnyIndexErrors", .boolean), ("forceConsistentCasingInFileNames", .boolean),
  ("maxNodeModuleJsDepth", .number), ("noStrictGenericChecks", .boolean),
  ("useDefineForClassFields", .boolean), ("preserveValueImports", .boolean),
  ("keyofStringsOnly", .boolean), ("plugins", .list "plugin" .object),
  ("moduleDetection", .choice ["auto", "legacy", "force"]), ("ignoreDeprecations", .text)]

/-- The kind of value that the option of a name takes. -/
def optionKind? (name : String) : Option OptionKind := declaredOptions.lookup name

/-- The options that say which declarations of types are fetched. -/
def acquisitionOptions : List (String × OptionKind) := [
  ("enable", .boolean), ("include", .list "include" .text), ("exclude", .list "exclude" .text),
  ("disableFilenameBasedTypeAcquisition", .boolean)]

/-- The options that say how files are watched. -/
def watchOptions : List (String × OptionKind) := [
  ("watchFile", .choice ["fixedpollinginterval", "prioritypollinginterval",
    "dynamicprioritypolling", "fixedchunksizepolling", "usefsevents",
    "usefseventsonparentdirectory"]),
  ("watchDirectory", .choice ["usefsevents", "fixedpollinginterval", "dynamicprioritypolling",
    "fixedchunksizepolling"]),
  ("fallbackPolling", .choice ["fixedinterval", "priorityinterval", "dynamicpriority",
    "fixedchunksize"]),
  ("synchronousWatchDirectory", .boolean),
  ("excludeDirectories", .list "excludeDirectory" .path),
  ("excludeFiles", .list "excludeFile" .path)]

/-- The options that a configuration may hold, by what they are about. -/
inductive OptionFamily where
  | compiler
  | acquisition
  | watch
  deriving DecidableEq, Repr

/-- The options of a family. -/
def OptionFamily.options : OptionFamily → List (String × OptionKind)
  | .compiler => declaredOptions
  | .acquisition => acquisitionOptions
  | .watch => watchOptions

/-- What the options of a family are called. -/
def OptionFamily.word : OptionFamily → String
  | .compiler => "compiler"
  | .acquisition => "type acquisition"
  | .watch => "watch"

/-- Options of builds of several projects, which no configuration holds. -/
def buildOptions : List String := ["verbose", "dry", "force", "clean", "stoponbuilderrors"]

/-- Every name of an option that builds of several projects share. -/
def sharedOptions : List String :=
  (declaredOptions.takeWhile (·.1 ≠ "all")).map (·.1.toLower)

/-- Words that are still understood but no longer named. -/
def outdatedWords : List String := ["es3", "node"]

namespace OptionKind

/-- The name of the kind. -/
def word : OptionKind → String
  | .boolean => "boolean"
  | .number => "number"
  | .list _ _ => "Array"
  | .object => "object"
  | _ => "string"

/-- The value is of the kind. -/
def admits : OptionKind → Json → Bool
  | _, .null => true
  | .boolean, .bool _ => true
  | .text, .string _ => true
  | .path, .string _ => true
  | .choice _, .string _ => true
  | .number, .number _ => true
  | .list _ _, .array _ => true
  | .object, .object _ => true
  | .object, .array _ => true
  | _, _ => false

end OptionKind

end TypeLineage.Project
