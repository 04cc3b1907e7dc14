import TypeLineage.Library.Browser
import TypeLineage.Library.Bytes
import TypeLineage.Library.Collections
import TypeLineage.Library.Editions
import TypeLineage.Library.Elements
import TypeLineage.Library.Events
import TypeLineage.Library.Network
import TypeLineage.Library.Nodes
import TypeLineage.Library.Reflection
import TypeLineage.Library.Values

/-! # Parts of the library

    The library comes in parts.  A part has declarations of its own and takes in
    other parts; an edition is a part that takes in the edition before it and
    what is new.  `Part.seen` gives the parts that are seen where some are asked
    for: those and all that they take in, in the order of the library. -/

namespace TypeLineage.Library

/-- A part of the library. -/
structure Part where
  name : String
  /-- The parts that it takes in. -/
  needs : List String
  lines : List String

/-- The lists of numbers of one size, with what is declared of each. -/
def ofNumberLists (lines : String → List String) : List String := numberLists.flatMap lines

/-- What is declared of lists of small numbers with fractions. -/
def halfNumberListLines : List String :=
  numberListLines "Float16Array" ++ numberListSteps "Float16Array" ++ numberListTags "Float16Array"
    ++ numberListTests "Float16Array" ++ numberListEnds "number" "Float16Array"
    ++ changedNumberListLines "number" "Float16Array"

/-- What is declared of browsers. -/
def browserLines : List String :=
  consoleLines ++ eventLines ++ inputEventLines ++ newsEventLines ++ messageLines ++ fileLines
    ++ requestLines ++ streamLines ++ connectionLines ++ nodeLines ++ boxLines ++ elementLines
    ++ styleLines ++ handlerLines ++ pageElementLines ++ pictureLines ++ anchorToImageLines
    ++ inputToQuoteLines ++ scriptToVideoLines ++ elementNameLines ++ storageLines
    ++ navigatorLines ++ documentLines ++ observerLines ++ windowLines ++ windowValueLines

namespace Part

/-- The editions, each with the names of its own parts behind a point. -/
def editions : List (String × List String) := [
  ("es2015", ["core", "collection", "iterable", "generator", "promise", "proxy", "reflect",
    "symbol", "symbol.wellknown"]),
  ("es2016", ["array.include", "intl"]),
  ("es2017", ["arraybuffer", "date", "intl", "object", "sharedmemory", "string", "typedarrays"]),
  ("es2018", ["asynciterable", "asyncgenerator", "promise", "regexp", "intl"]),
  ("es2019", ["array", "object", "string", "symbol", "intl"]),
  ("es2020", ["bigint", "date", "number", "promise", "sharedmemory", "string",
    "symbol.wellknown", "intl"]),
  ("es2021", ["promise", "string", "weakref", "intl"]),
  ("es2022", ["array", "error", "intl", "object", "regexp", "string"]),
  ("es2023", ["array", "collection", "intl"]),
  ("es2024", ["arraybuffer", "collection", "object", "promise", "regexp", "sharedmemory",
    "string"]),
  ("esnext", ["intl", "decorators", "disposable", "collection", "array", "iterator", "promise",
    "float16", "error", "sharedmemory"])]

/-- The editions as parts, given the one before the first. -/
def ofEditions (before : String) : List (String × List String) → List Part
  | [] => []
  | (name, own) :: rest =>
    ⟨name, before :: own.map ((name ++ ".") ++ ·), []⟩ :: ofEditions name rest

/-- The parts in their order. -/
def all : List Part := [
  ⟨"es5", ["decorators", "decorators.legacy"],
    valueLines ++ listLines ++ derivedLines ++ byteLines ++ ofNumberLists numberListLines
      ++ localeLines⟩]
  ++ ofEditions "es5" editions ++ [
  ⟨"dom", [], browserLines⟩, ⟨"dom.iterable", [], browserStepLines⟩,
  ⟨"dom.asynciterable", [], browserWaitLines⟩,
  ⟨"webworker", [], []⟩, ⟨"webworker.importscripts", [], []⟩, ⟨"webworker.iterable", [], []⟩,
  ⟨"webworker.asynciterable", [], []⟩, ⟨"scripthost", [], []⟩,
  ⟨"es2015.core", [], coreLines ++ ofNumberLists numberListTexts⟩,
  ⟨"es2015.collection", [], collectionLines⟩,
  ⟨"es2015.generator", ["es2015.iterable"], generatorLines⟩,
  ⟨"es2015.iterable", ["es2015.symbol"], iteratorLines ++ ofNumberLists numberListSteps⟩,
  ⟨"es2015.promise", [], promiseLines⟩,
  ⟨"es2015.proxy", [], proxyLines⟩,
  ⟨"es2015.reflect", [], reflectLines⟩,
  ⟨"es2015.symbol", [], symbolLines⟩,
  ⟨"es2015.symbol.wellknown", ["es2015.symbol"], wellKnownLines ++ ofNumberLists numberListTags⟩,
  ⟨"es2016.array.include", [], itemTestLines ++ ofNumberLists numberListTests⟩,
  ⟨"es2016.intl", [], localeNameLines⟩,
  ⟨"es2017.arraybuffer", [], bufferLines⟩,
  ⟨"es2017.date", [], dateLines⟩,
  ⟨"es2017.object", [], entryLines⟩,
  ⟨"es2017.sharedmemory", ["es2015.symbol", "es2015.symbol.wellknown"], sharedMemoryLines⟩,
  ⟨"es2017.string", [], paddingLines⟩,
  ⟨"es2017.intl", [], datePartLines⟩,
  ⟨"es2017.typedarrays", [], ofNumberLists emptyNumberListLines⟩,
  ⟨"es2018.asyncgenerator", ["es2018.asynciterable"], asyncGeneratorLines⟩,
  ⟨"es2018.asynciterable", ["es2015.symbol", "es2015.iterable"], asyncIteratorLines⟩,
  ⟨"es2018.intl", [], pluralLines⟩,
  ⟨"es2018.promise", [], finallyLines⟩,
  ⟨"es2018.regexp", [], groupLines⟩,
  ⟨"es2019.array", [], flatLines⟩,
  ⟨"es2019.object", ["es2015.iterable"], fromEntryLines⟩,
  ⟨"es2019.string", [], trimLines⟩,
  ⟨"es2019.symbol", [], descriptionLines⟩,
  ⟨"es2019.intl", [], unknownPartLines⟩,
  ⟨"es2020.bigint", ["es2020.intl"], bigNumberLines ++ bigNumberLists.flatMap bigNumberListLines⟩,
  ⟨"es2020.date", ["es2020.intl"], localeDateLines⟩,
  ⟨"es2020.promise", [], settledLines⟩,
  ⟨"es2020.sharedmemory", ["es2020.bigint"], bigSharedLines⟩,
  ⟨"es2020.string", ["es2015.iterable", "es2020.intl", "es2020.symbol.wellknown"],
    localeTextLines⟩,
  ⟨"es2020.symbol.wellknown", ["es2015.iterable", "es2015.symbol"], matchLines⟩,
  ⟨"es2020.intl", ["es2018.intl"], localeObjectLines⟩,
  ⟨"es2020.number", ["es2020.intl"], localeNumberLines⟩,
  ⟨"es2021.promise", [], anyPromiseLines⟩,
  ⟨"es2021.string", [], replaceLines⟩,
  ⟨"es2021.weakref", ["es2015.symbol.wellknown"], weakLines⟩,
  ⟨"es2021.intl", [], listFormatLines⟩,
  ⟨"es2022.array", [], atLines ++ ofNumberLists (numberListEnds "number")
    ++ bigNumberLists.flatMap (numberListEnds "bigint")⟩,
  ⟨"es2022.error", ["es2021.promise"], causeLines⟩,
  ⟨"es2022.intl", [], segmentLines⟩,
  ⟨"es2022.object", [], hasOwnLines⟩,
  ⟨"es2022.string", [], textAtLines⟩,
  ⟨"es2022.regexp", [], indexLines⟩,
  ⟨"es2023.array", [], changedListLines ++ ofNumberLists (changedNumberListLines "number")
    ++ bigNumberLists.flatMap (changedNumberListLines "bigint")⟩,
  ⟨"es2023.collection", [], weakSymbolLines⟩,
  ⟨"es2023.intl", [], rangeFormatLines⟩,
  ⟨"es2024.arraybuffer", [], growingBufferLines⟩,
  ⟨"es2024.collection", [], mapGroupLines⟩,
  ⟨"es2024.object", [], groupedLines⟩,
  ⟨"es2024.promise", [], resolverLines⟩,
  ⟨"es2024.regexp", [], setPatternLines⟩,
  ⟨"es2024.sharedmemory", ["es2020.bigint"], waitLines⟩,
  ⟨"es2024.string", [], wellFormedLines⟩,
  ⟨"esnext.array", [], asyncListLines⟩,
  ⟨"esnext.collection", ["es2024.collection"], setLines⟩,
  ⟨"esnext.intl", [], []⟩,
  ⟨"esnext.disposable", ["es2015.symbol", "es2015.iterable", "es2018.asynciterable"],
    disposalLines⟩,
  ⟨"esnext.promise", [], tryLines⟩,
  ⟨"esnext.decorators", ["es2015.symbol", "decorators"], metadataLines⟩,
  ⟨"esnext.iterator", ["es2015.iterable"], iteratorStepLines⟩,
  ⟨"esnext.float16", ["es2015.symbol", "es2015.iterable"], halfNumberLines ++ halfNumberListLines⟩,
  ⟨"esnext.error", [], failureTestLines⟩,
  ⟨"esnext.sharedmemory", [], pauseLines⟩,
  ⟨"decorators", [], decoratorLines⟩,
  ⟨"decorators.legacy", [], formerDecoratorLines⟩]

/-- Other names for parts. -/
def otherNames : List (String × String) := [
  ("es6", "es2015"), ("es7", "es2016"), ("esnext.symbol", "es2019.symbol"),
  ("esnext.asynciterable", "es2018.asynciterable"), ("esnext.bigint", "es2020.bigint"),
  ("esnext.string", "es2022.string"), ("esnext.weakref", "es2021.weakref"),
  ("esnext.object", "es2024.object"), ("esnext.regexp", "es2024.regexp")]

/-- The parts that are asked for by name and those that they take in, given how deeply parts
    take in one another. -/
def reach : Nat → List String → List String → List String
  | 0, seen, _ => seen
  | n + 1, seen, names =>
    let fresh := (names.map fun w => (otherNames.lookup w).getD w).filter (!seen.contains ·)
    if fresh.isEmpty then seen
    else
      let needed := (all.filter fun p => fresh.contains p.name).flatMap (·.needs)
      reach n (seen ++ fresh.eraseDups) needed

/-- Which of the parts are seen where some are asked for by name. -/
def seen (names : List String) : Array Bool :=
  let reached := reach all.length [] (names.map String.toLower)
  (all.map fun p => reached.contains p.name).toArray

end Part

end TypeLineage.Library
