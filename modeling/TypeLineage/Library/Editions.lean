import TypeLineage.Library.Layout

/-! # The later editions

    What the editions after that of 2015 add, from the first of them to the
    coming one. -/

namespace TypeLineage.Library

/-! ## Editions up to 2019 -/

/-- What tells whether a list has an item. -/
def itemTestLines : List String := [
  "interface Array<T>",
  " includes(searchElement: T, fromIndex?: number): boolean",
  "interface ReadonlyArray<T>",
  " includes(searchElement: T, fromIndex?: number): boolean"]

/-- What is declared of the names of locales. -/
def localeNameLines : List String := [
  "declare namespace Intl",
  " function getCanonicalLocales(locale?: string | readonly string[]): string[]"]

/-- What makes memory without a length. -/
def bufferLines : List String := [
  "interface ArrayBufferConstructor",
  " new (): ArrayBuffer"]

/-- What makes a date of a year alone. -/
def dateLines : List String := [
  "interface DateConstructor",
  " UTC(year: number, monthIndex?: number, date?: number, hours?: number, minutes?: number, seconds?: number, ms?: number): number"]

/-- What is declared of the entries of objects. -/
def entryLines : List String := [
  "interface ObjectConstructor",
  " values<T>(o: \x7b [s: string]: T \x7d | ArrayLike<T>): T[]",
  " values(o: \x7b\x7d): any[]",
  " entries<T>(o: \x7b [s: string]: T \x7d | ArrayLike<T>): [string, T][]",
  " entries(o: \x7b\x7d): [string, any][]",
  " getOwnPropertyDescriptors<T>(o: T): \x7b [P in keyof T]: TypedPropertyDescriptor<T[P]> \x7d & \x7b [x: string]: PropertyDescriptor \x7d"]

/-- What is declared of memory that is shared. -/
def sharedMemoryLines : List String := [
  "interface SharedArrayBuffer",
  " readonly byteLength: number",
  " slice(begin?: number, end?: number): SharedArrayBuffer",
  " readonly [Symbol.toStringTag]: \"SharedArrayBuffer\"",
  "interface SharedArrayBufferConstructor",
  " readonly prototype: SharedArrayBuffer",
  " new (byteLength?: number): SharedArrayBuffer",
  "declare var SharedArrayBuffer: SharedArrayBufferConstructor",
  "interface Atomics",
  " add(typedArray: Int8Array | Uint8Array | Int16Array | Uint16Array | Int32Array | Uint32Array, index: number, value: number): number",
  " and(typedArray: Int8Array | Uint8Array | Int16Array | Uint16Array | Int32Array | Uint32Array, index: number, value: number): number",
  " compareExchange(typedArray: Int8Array | Uint8Array | Int16Array | Uint16Array | Int32Array | Uint32Array, index: number, expectedValue: number, replacementValue: number): number",
  " exchange(typedArray: Int8Array | Uint8Array | Int16Array | Uint16Array | Int32Array | Uint32Array, index: number, value: number): number",
  " isLockFree(size: number): boolean",
  " load(typedArray: Int8Array | Uint8Array | Int16Array | Uint16Array | Int32Array | Uint32Array, index: number): number",
  " or(typedArray: Int8Array | Uint8Array | Int16Array | Uint16Array | Int32Array | Uint32Array, index: number, value: number): number",
  " store(typedArray: Int8Array | Uint8Array | Int16Array | Uint16Array | Int32Array | Uint32Array, index: number, value: number): number",
  " sub(typedArray: Int8Array | Uint8Array | Int16Array | Uint16Array | Int32Array | Uint32Array, index: number, value: number): number",
  " wait(typedArray: Int32Array, index: number, value: number, timeout?: number): \"ok\" | \"not-equal\" | \"timed-out\"",
  " notify(typedArray: Int32Array, index: number, count?: number): number",
  " xor(typedArray: Int8Array | Uint8Array | Int16Array | Uint16Array | Int32Array | Uint32Array, index: number, value: number): number",
  " readonly [Symbol.toStringTag]: \"Atomics\"",
  "declare var Atomics: Atomics",
  "interface ArrayBufferTypes",
  " SharedArrayBuffer: SharedArrayBuffer"]

/-- What is declared of filling texts up. -/
def paddingLines : List String := [
  "interface String",
  " padStart(maxLength: number, fillString?: string): string",
  " padEnd(maxLength: number, fillString?: string): string"]

/-- What is declared of the parts of written dates. -/
def datePartLines : List String := [
  "declare namespace Intl",
  " interface DateTimeFormatPartTypesRegistry \x7b day: any; dayPeriod: any; era: any; hour: any; literal: any; minute: any; month: any; second: any; timeZoneName: any; weekday: any; year: any \x7d",
  " type DateTimeFormatPartTypes = keyof DateTimeFormatPartTypesRegistry",
  " interface DateTimeFormatPart \x7b type: DateTimeFormatPartTypes; value: string \x7d",
  " interface DateTimeFormat \x7b formatToParts(date?: Date | number): DateTimeFormatPart[] \x7d"]

/-- What is declared of functions that yield and wait. -/
def asyncGeneratorLines : List String := [
  "interface AsyncGenerator<T = unknown, TReturn = any, TNext = any> extends AsyncIteratorObject<T, TReturn, TNext>",
  " next(...[value]: [] | [TNext]): Promise<IteratorResult<T, TReturn>>",
  " return(value: TReturn | PromiseLike<TReturn>): Promise<IteratorResult<T, TReturn>>",
  " throw(e: any): Promise<IteratorResult<T, TReturn>>",
  " [Symbol.asyncIterator](): AsyncGenerator<T, TReturn, TNext>",
  "interface AsyncGeneratorFunction",
  " new (...args: any[]): AsyncGenerator",
  " (...args: any[]): AsyncGenerator",
  " readonly length: number",
  " readonly name: string",
  " readonly prototype: AsyncGenerator",
  "interface AsyncGeneratorFunctionConstructor",
  " new (...args: string[]): AsyncGeneratorFunction",
  " (...args: string[]): AsyncGeneratorFunction",
  " readonly length: number",
  " readonly name: string",
  " readonly prototype: AsyncGeneratorFunction"]

/-- What is declared of going through values that are waited for. -/
def asyncIteratorLines : List String := [
  "interface SymbolConstructor",
  " readonly asyncIterator: unique symbol",
  "interface AsyncIterator<T, TReturn = any, TNext = any>",
  " next(...[value]: [] | [TNext]): Promise<IteratorResult<T, TReturn>>",
  " return?(value?: TReturn | PromiseLike<TReturn>): Promise<IteratorResult<T, TReturn>>",
  " throw?(e?: any): Promise<IteratorResult<T, TReturn>>",
  "interface AsyncIterable<T, TReturn = any, TNext = any>",
  " [Symbol.asyncIterator](): AsyncIterator<T, TReturn, TNext>",
  "interface AsyncIterableIterator<T, TReturn = any, TNext = any> extends AsyncIterator<T, TReturn, TNext>",
  " [Symbol.asyncIterator](): AsyncIterableIterator<T, TReturn, TNext>",
  "interface AsyncIteratorObject<T, TReturn = unknown, TNext = unknown> extends AsyncIterator<T, TReturn, TNext>",
  " [Symbol.asyncIterator](): AsyncIteratorObject<T, TReturn, TNext>"]

/-- What is declared of plurals. -/
def pluralLines : List String := [
  "declare namespace Intl",
  " type LDMLPluralRule = \"zero\" | \"one\" | \"two\" | \"few\" | \"many\" | \"other\"",
  " type PluralRuleType = \"cardinal\" | \"ordinal\"",
  " interface PluralRulesOptions \x7b localeMatcher?: \"lookup\" | \"best fit\" | undefined; type?: PluralRuleType | undefined; minimumIntegerDigits?: number | undefined; minimumFractionDigits?: number | undefined; maximumFractionDigits?: number | undefined; minimumSignificantDigits?: number | undefined; maximumSignificantDigits?: number | undefined \x7d",
  " interface ResolvedPluralRulesOptions \x7b locale: string; pluralCategories: LDMLPluralRule[]; type: PluralRuleType; minimumIntegerDigits: number; minimumFractionDigits: number; maximumFractionDigits: number; minimumSignificantDigits?: number; maximumSignificantDigits?: number \x7d",
  " interface PluralRules \x7b resolvedOptions(): ResolvedPluralRulesOptions; select(n: number): LDMLPluralRule \x7d",
  " interface PluralRulesConstructor \x7b new (locales?: string | readonly string[], options?: PluralRulesOptions): PluralRules; (locales?: string | readonly string[], options?: PluralRulesOptions): PluralRules; supportedLocalesOf(locales: string | readonly string[], options?: \x7b localeMatcher?: \"lookup\" | \"best fit\" \x7d): string[] \x7d",
  " const PluralRules: PluralRulesConstructor",
  " interface NumberFormatPartTypeRegistry \x7b literal: never; nan: never; infinity: never; percent: never; integer: never; group: never; decimal: never; fraction: never; plusSign: never; minusSign: never; percentSign: never; currency: never \x7d",
  " type NumberFormatPartTypes = keyof NumberFormatPartTypeRegistry",
  " interface NumberFormatPart \x7b type: NumberFormatPartTypes; value: string \x7d",
  " interface NumberFormat \x7b formatToParts(number?: number | bigint): NumberFormatPart[] \x7d"]

/-- What is declared of the ends of promises. -/
def finallyLines : List String := [
  "interface Promise<T>",
  " finally(onfinally?: (() => void) | null | undefined): Promise<T>"]

/-- What is declared of the groups of matches. -/
def groupLines : List String := [
  "interface RegExpMatchArray",
  " groups?: \x7b [key: string]: string \x7d",
  "interface RegExpExecArray",
  " groups?: \x7b [key: string]: string \x7d",
  "interface RegExp",
  " readonly dotAll: boolean"]

/-- What is declared of making lists flat. -/
def flatLines : List String := [
  "type FlatArray<Arr, Depth extends number> = \x7b done: Arr; recur: Arr extends ReadonlyArray<infer InnerArr> ? FlatArray<InnerArr, [-1, 0, 1, 2, 3, 4, 5, 6, 7, 8, 9, 10, 11, 12, 13, 14, 15, 16, 17, 18, 19, 20][Depth]> : Arr \x7d[Depth extends -1 ? \"done\" : \"recur\"]",
  "interface ReadonlyArray<T>",
  " flatMap<U, This = undefined>(callback: (this: This, value: T, index: number, array: T[]) => U | ReadonlyArray<U>, thisArg?: This): U[]",
  " flat<A, D extends number = 1>(this: A, depth?: D): FlatArray<A, D>[]",
  "interface Array<T>",
  " flatMap<U, This = undefined>(callback: (this: This, value: T, index: number, array: T[]) => U | ReadonlyArray<U>, thisArg?: This): U[]",
  " flat<A, D extends number = 1>(this: A, depth?: D): FlatArray<A, D>[]"]

/-- What makes objects of entries. -/
def fromEntryLines : List String := [
  "interface ObjectConstructor",
  " fromEntries<T = any>(entries: Iterable<readonly [PropertyKey, T]>): \x7b [k: string]: T \x7d",
  " fromEntries(entries: Iterable<readonly any[]>): any"]

/-- What is declared of trimming texts. -/
def trimLines : List String := [
  "interface String",
  " trimEnd(): string",
  " trimStart(): string",
  " trimLeft(): string",
  " trimRight(): string"]

/-- What tells the description of a symbol. -/
def descriptionLines : List String := [
  "interface Symbol",
  " readonly description: string | undefined"]

/-- What is declared of parts of dates that are not known. -/
def unknownPartLines : List String := [
  "declare namespace Intl",
  " interface DateTimeFormatPartTypesRegistry \x7b unknown: any \x7d"]

/-! ## The editions of 2020 and 2021 -/

/-- What is declared of big numbers. -/
def bigNumberLines : List String := [
  "interface BigInt",
  " toString(radix?: number): string",
  " toLocaleString(locales?: any, options?: any): string",
  " valueOf(): bigint",
  " readonly [Symbol.toStringTag]: \"BigInt\"",
  "interface BigIntConstructor",
  " (value: bigint | boolean | number | string): bigint",
  " readonly prototype: BigInt",
  " asIntN(bits: number, int: bigint): bigint",
  " asUintN(bits: number, int: bigint): bigint",
  "declare var BigInt: BigIntConstructor",
  "interface DataView<TArrayBuffer extends ArrayBufferLike>",
  " getBigInt64(byteOffset: number, littleEndian?: boolean): bigint",
  " getBigUint64(byteOffset: number, littleEndian?: boolean): bigint",
  " setBigInt64(byteOffset: number, value: bigint, littleEndian?: boolean): void",
  " setBigUint64(byteOffset: number, value: bigint, littleEndian?: boolean): void"]

/-- How big numbers share memory. -/
def bigSharedLines : List String := [
  "interface Atomics",
  " add(typedArray: BigInt64Array | BigUint64Array, index: number, value: bigint): bigint",
  " and(typedArray: BigInt64Array | BigUint64Array, index: number, value: bigint): bigint",
  " compareExchange(typedArray: BigInt64Array | BigUint64Array, index: number, expectedValue: bigint, replacementValue: bigint): bigint",
  " exchange(typedArray: BigInt64Array | BigUint64Array, index: number, value: bigint): bigint",
  " load(typedArray: BigInt64Array | BigUint64Array, index: number): bigint",
  " or(typedArray: BigInt64Array | BigUint64Array, index: number, value: bigint): bigint",
  " store(typedArray: BigInt64Array | BigUint64Array, index: number, value: bigint): bigint",
  " sub(typedArray: BigInt64Array | BigUint64Array, index: number, value: bigint): bigint",
  " wait(typedArray: BigInt64Array, index: number, value: bigint, timeout?: number): \"ok\" | \"not-equal\" | \"timed-out\"",
  " notify(typedArray: BigInt64Array, index: number, count?: number): number",
  " xor(typedArray: BigInt64Array | BigUint64Array, index: number, value: bigint): bigint"]

/-- What is declared of promises that are all settled. -/
def settledLines : List String := [
  "interface PromiseFulfilledResult<T>",
  " status: \"fulfilled\"",
  " value: T",
  "interface PromiseRejectedResult",
  " status: \"rejected\"",
  " reason: any",
  "type PromiseSettledResult<T> = PromiseFulfilledResult<T> | PromiseRejectedResult",
  "interface PromiseConstructor",
  " allSettled<T extends readonly unknown[] | []>(values: T): Promise<\x7b -readonly [P in keyof T]: PromiseSettledResult<Awaited<T[P]>> \x7d>",
  " allSettled<T>(values: Iterable<T | PromiseLike<T>>): Promise<PromiseSettledResult<Awaited<T>>[]>"]

/-- What is declared of all matches of a pattern. -/
def matchLines : List String := [
  "interface SymbolConstructor",
  " readonly matchAll: unique symbol",
  "interface RegExpStringIterator<T> extends IteratorObject<T, BuiltinIteratorReturn, unknown>",
  " [Symbol.iterator](): RegExpStringIterator<T>",
  "interface RegExp",
  " [Symbol.matchAll](str: string): RegExpStringIterator<RegExpMatchArray>"]

/-- What is declared of texts in locales, and their matches. -/
def localeTextLines : List String := [
  "interface String",
  " matchAll(regexp: RegExp): RegExpStringIterator<RegExpExecArray>",
  " toLocaleLowerCase(locales?: Intl.LocalesArgument): string",
  " toLocaleUpperCase(locales?: Intl.LocalesArgument): string",
  " localeCompare(that: string, locales?: Intl.LocalesArgument, options?: Intl.CollatorOptions): number"]

/-- How numbers are written in locales. -/
def localeNumberLines : List String := [
  "interface Number",
  " toLocaleString(locales?: Intl.LocalesArgument, options?: Intl.NumberFormatOptions): string"]

/-- How dates are written in locales. -/
def localeDateLines : List String := [
  "interface Date",
  " toLocaleString(locales?: Intl.LocalesArgument, options?: Intl.DateTimeFormatOptions): string",
  " toLocaleDateString(locales?: Intl.LocalesArgument, options?: Intl.DateTimeFormatOptions): string",
  " toLocaleTimeString(locales?: Intl.LocalesArgument, options?: Intl.DateTimeFormatOptions): string"]

/-- What is declared of locales as objects. -/
def localeObjectLines : List String := [
  "declare namespace Intl",
  " type UnicodeBCP47LocaleIdentifier = string",
  " type LocalesArgument = UnicodeBCP47LocaleIdentifier | Locale | readonly (UnicodeBCP47LocaleIdentifier | Locale)[] | undefined",
  " type RelativeTimeFormatUnit = \"year\" | \"years\" | \"quarter\" | \"quarters\" | \"month\" | \"months\" | \"week\" | \"weeks\" | \"day\" | \"days\" | \"hour\" | \"hours\" | \"minute\" | \"minutes\" | \"second\" | \"seconds\"",
  " type RelativeTimeFormatUnitSingular = \"year\" | \"quarter\" | \"month\" | \"week\" | \"day\" | \"hour\" | \"minute\" | \"second\"",
  " type RelativeTimeFormatLocaleMatcher = \"lookup\" | \"best fit\"",
  " type RelativeTimeFormatNumeric = \"always\" | \"auto\"",
  " type RelativeTimeFormatStyle = \"long\" | \"short\" | \"narrow\"",
  " interface RelativeTimeFormatOptions \x7b localeMatcher?: RelativeTimeFormatLocaleMatcher; numeric?: RelativeTimeFormatNumeric; style?: RelativeTimeFormatStyle \x7d",
  " interface ResolvedRelativeTimeFormatOptions \x7b locale: UnicodeBCP47LocaleIdentifier; style: RelativeTimeFormatStyle; numeric: RelativeTimeFormatNumeric; numberingSystem: string \x7d",
  " type RelativeTimeFormatPart = \x7b type: \"literal\"; value: string \x7d | \x7b type: Exclude<NumberFormatPartTypes, \"literal\">; value: string; unit: RelativeTimeFormatUnitSingular \x7d",
  " interface RelativeTimeFormat \x7b format(value: number, unit: RelativeTimeFormatUnit): string; formatToParts(value: number, unit: RelativeTimeFormatUnit): RelativeTimeFormatPart[]; resolvedOptions(): ResolvedRelativeTimeFormatOptions \x7d",
  " const RelativeTimeFormat: \x7b new (locales?: LocalesArgument, options?: RelativeTimeFormatOptions): RelativeTimeFormat; supportedLocalesOf(locales?: LocalesArgument, options?: RelativeTimeFormatOptions): UnicodeBCP47LocaleIdentifier[] \x7d",
  " interface NumberFormatPartTypeRegistry \x7b compact: never; exponentInteger: never; exponentMinusSign: never; exponentSeparator: never; unit: never; unknown: never \x7d",
  " interface NumberFormatOptions \x7b numberingSystem?: string | undefined; compactDisplay?: \"short\" | \"long\" | undefined; notation?: \"standard\" | \"scientific\" | \"engineering\" | \"compact\" | undefined; signDisplay?: \"auto\" | \"never\" | \"always\" | \"exceptZero\" | undefined; unit?: string | undefined; unitDisplay?: \"short\" | \"long\" | \"narrow\" | undefined; currencySign?: \"standard\" | \"accounting\" | undefined \x7d",
  " interface NumberFormat \x7b format(value: number | bigint): string \x7d",
  " interface DateTimeFormatOptions \x7b calendar?: string | undefined; dayPeriod?: \"narrow\" | \"short\" | \"long\" | undefined; numberingSystem?: string | undefined; dateStyle?: \"full\" | \"long\" | \"medium\" | \"short\" | undefined; timeStyle?: \"full\" | \"long\" | \"medium\" | \"short\" | undefined; hourCycle?: \"h11\" | \"h12\" | \"h23\" | \"h24\" | undefined \x7d",
  " type LocaleHourCycleKey = \"h12\" | \"h23\" | \"h11\" | \"h24\"",
  " type LocaleCollationCaseFirst = \"upper\" | \"lower\" | \"false\"",
  " interface LocaleOptions \x7b baseName?: string; calendar?: string; caseFirst?: LocaleCollationCaseFirst; collation?: string; hourCycle?: LocaleHourCycleKey; language?: string; numberingSystem?: string; numeric?: boolean; region?: string; script?: string \x7d",
  " interface Locale extends LocaleOptions \x7b baseName: string; language: string; maximize(): Locale; minimize(): Locale; toString(): UnicodeBCP47LocaleIdentifier \x7d",
  " const Locale: \x7b new (tag: UnicodeBCP47LocaleIdentifier | Locale, options?: LocaleOptions): Locale \x7d",
  " type DisplayNamesFallback = \"code\" | \"none\"",
  " type DisplayNamesType = \"language\" | \"region\" | \"script\" | \"calendar\" | \"dateTimeField\" | \"currency\"",
  " type DisplayNamesLanguageDisplay = \"dialect\" | \"standard\"",
  " interface DisplayNamesOptions \x7b localeMatcher?: RelativeTimeFormatLocaleMatcher; style?: RelativeTimeFormatStyle; type: DisplayNamesType; languageDisplay?: DisplayNamesLanguageDisplay; fallback?: DisplayNamesFallback \x7d",
  " interface ResolvedDisplayNamesOptions \x7b locale: UnicodeBCP47LocaleIdentifier; style: RelativeTimeFormatStyle; type: DisplayNamesType; fallback: DisplayNamesFallback; languageDisplay?: DisplayNamesLanguageDisplay \x7d",
  " interface DisplayNames \x7b of(code: string): string | undefined; resolvedOptions(): ResolvedDisplayNamesOptions \x7d",
  " const DisplayNames: \x7b prototype: DisplayNames; new (locales: LocalesArgument, options: DisplayNamesOptions): DisplayNames; supportedLocalesOf(locales?: LocalesArgument, options?: \x7b localeMatcher?: RelativeTimeFormatLocaleMatcher \x7d): UnicodeBCP47LocaleIdentifier[] \x7d",
  " interface CollatorConstructor \x7b new (locales?: LocalesArgument, options?: CollatorOptions): Collator; (locales?: LocalesArgument, options?: CollatorOptions): Collator; supportedLocalesOf(locales: LocalesArgument, options?: CollatorOptions): string[] \x7d",
  " interface DateTimeFormatConstructor \x7b new (locales?: LocalesArgument, options?: DateTimeFormatOptions): DateTimeFormat; (locales?: LocalesArgument, options?: DateTimeFormatOptions): DateTimeFormat; supportedLocalesOf(locales: LocalesArgument, options?: DateTimeFormatOptions): string[] \x7d",
  " interface NumberFormatConstructor \x7b new (locales?: LocalesArgument, options?: NumberFormatOptions): NumberFormat; (locales?: LocalesArgument, options?: NumberFormatOptions): NumberFormat; supportedLocalesOf(locales: LocalesArgument, options?: NumberFormatOptions): string[] \x7d",
  " interface PluralRulesConstructor \x7b new (locales?: LocalesArgument, options?: PluralRulesOptions): PluralRules; (locales?: LocalesArgument, options?: PluralRulesOptions): PluralRules; supportedLocalesOf(locales: LocalesArgument, options?: \x7b localeMatcher?: \"lookup\" | \"best fit\" \x7d): string[] \x7d"]

/-- What is declared of the first promise that is kept. -/
def anyPromiseLines : List String := [
  "interface AggregateError extends Error",
  " errors: any[]",
  "interface AggregateErrorConstructor",
  " new (errors: Iterable<any>, message?: string): AggregateError",
  " (errors: Iterable<any>, message?: string): AggregateError",
  " readonly prototype: AggregateError",
  "declare var AggregateError: AggregateErrorConstructor",
  "interface PromiseConstructor",
  " any<T extends readonly unknown[] | []>(values: T): Promise<Awaited<T[number]>>",
  " any<T>(values: Iterable<T | PromiseLike<T>>): Promise<Awaited<T>>"]

/-- What is declared of replacing all that match. -/
def replaceLines : List String := [
  "interface String",
  " replaceAll(searchValue: string | RegExp, replaceValue: string): string",
  " replaceAll(searchValue: string | RegExp, replacer: (substring: string, ...args: any[]) => string): string"]

/-- What is declared of holding objects loosely. -/
def weakLines : List String := [
  "interface WeakRef<T extends WeakKey>",
  " readonly [Symbol.toStringTag]: \"WeakRef\"",
  " deref(): T | undefined",
  "interface WeakRefConstructor",
  " readonly prototype: WeakRef<any>",
  " new <T extends WeakKey>(target: T): WeakRef<T>",
  "declare var WeakRef: WeakRefConstructor",
  "interface FinalizationRegistry<T>",
  " readonly [Symbol.toStringTag]: \"FinalizationRegistry\"",
  " register(target: WeakKey, heldValue: T, unregisterToken?: WeakKey): void",
  " unregister(unregisterToken: WeakKey): boolean",
  "interface FinalizationRegistryConstructor",
  " readonly prototype: FinalizationRegistry<any>",
  " new <T>(cleanupCallback: (heldValue: T) => void): FinalizationRegistry<T>",
  "declare var FinalizationRegistry: FinalizationRegistryConstructor"]

/-- What is declared of writing lists and stretches of time. -/
def listFormatLines : List String := [
  "declare namespace Intl",
  " interface DateTimeFormatPartTypesRegistry \x7b fractionalSecond: any \x7d",
  " interface DateTimeFormatOptions \x7b formatMatcher?: \"basic\" | \"best fit\" | \"best fit\" | undefined; dateStyle?: \"full\" | \"long\" | \"medium\" | \"short\" | undefined; timeStyle?: \"full\" | \"long\" | \"medium\" | \"short\" | undefined; dayPeriod?: \"narrow\" | \"short\" | \"long\" | undefined; fractionalSecondDigits?: 1 | 2 | 3 | undefined \x7d",
  " interface DateTimeRangeFormatPart extends DateTimeFormatPart \x7b source: \"startRange\" | \"endRange\" | \"shared\" \x7d",
  " interface DateTimeFormat \x7b formatRange(startDate: Date | number | bigint, endDate: Date | number | bigint): string; formatRangeToParts(startDate: Date | number | bigint, endDate: Date | number | bigint): DateTimeRangeFormatPart[] \x7d",
  " interface ResolvedDateTimeFormatOptions \x7b formatMatcher?: \"basic\" | \"best fit\" | \"best fit\"; dateStyle?: \"full\" | \"long\" | \"medium\" | \"short\"; timeStyle?: \"full\" | \"long\" | \"medium\" | \"short\"; hourCycle?: \"h11\" | \"h12\" | \"h23\" | \"h24\"; dayPeriod?: \"narrow\" | \"short\" | \"long\"; fractionalSecondDigits?: 1 | 2 | 3 \x7d",
  " type ListFormatLocaleMatcher = \"lookup\" | \"best fit\"",
  " type ListFormatType = \"conjunction\" | \"disjunction\" | \"unit\"",
  " type ListFormatStyle = \"long\" | \"short\" | \"narrow\"",
  " interface ListFormatOptions \x7b localeMatcher?: ListFormatLocaleMatcher | undefined; type?: ListFormatType | undefined; style?: ListFormatStyle | undefined \x7d",
  " interface ResolvedListFormatOptions \x7b locale: string; style: ListFormatStyle; type: ListFormatType \x7d",
  " interface ListFormat \x7b format(list: Iterable<string>): string; formatToParts(list: Iterable<string>): \x7b type: \"element\" | \"literal\"; value: string \x7d[]; resolvedOptions(): ResolvedListFormatOptions \x7d",
  " const ListFormat: \x7b prototype: ListFormat; new (locales?: LocalesArgument, options?: ListFormatOptions): ListFormat; supportedLocalesOf(locales: LocalesArgument, options?: Pick<ListFormatOptions, \"localeMatcher\">): UnicodeBCP47LocaleIdentifier[] \x7d"]

/-! ## Editions from 2022 on -/

/-- What gives items from either end of a list. -/
def atLines : List String := [
  "interface Array<T>",
  " at(index: number): T | undefined",
  "interface ReadonlyArray<T>",
  " at(index: number): T | undefined"]

/-- What is declared of the causes of failures. -/
def causeLines : List String := [
  "interface ErrorOptions",
  " cause?: unknown",
  "interface Error",
  " cause?: unknown",
  "interface ErrorConstructor",
  " new (message?: string, options?: ErrorOptions): Error",
  " (message?: string, options?: ErrorOptions): Error",
  "interface EvalErrorConstructor",
  " new (message?: string, options?: ErrorOptions): EvalError",
  " (message?: string, options?: ErrorOptions): EvalError",
  "interface RangeErrorConstructor",
  " new (message?: string, options?: ErrorOptions): RangeError",
  " (message?: string, options?: ErrorOptions): RangeError",
  "interface ReferenceErrorConstructor",
  " new (message?: string, options?: ErrorOptions): ReferenceError",
  " (message?: string, options?: ErrorOptions): ReferenceError",
  "interface SyntaxErrorConstructor",
  " new (message?: string, options?: ErrorOptions): SyntaxError",
  " (message?: string, options?: ErrorOptions): SyntaxError",
  "interface TypeErrorConstructor",
  " new (message?: string, options?: ErrorOptions): TypeError",
  " (message?: string, options?: ErrorOptions): TypeError",
  "interface URIErrorConstructor",
  " new (message?: string, options?: ErrorOptions): URIError",
  " (message?: string, options?: ErrorOptions): URIError",
  "interface AggregateErrorConstructor",
  " new (errors: Iterable<any>, message?: string, options?: ErrorOptions): AggregateError",
  " (errors: Iterable<any>, message?: string, options?: ErrorOptions): AggregateError"]

/-- What is declared of cutting texts into parts. -/
def segmentLines : List String := [
  "declare namespace Intl",
  " interface SegmenterOptions \x7b localeMatcher?: \"best fit\" | \"lookup\" | undefined; granularity?: \"grapheme\" | \"word\" | \"sentence\" | undefined \x7d",
  " interface Segmenter \x7b segment(input: string): Segments; resolvedOptions(): ResolvedSegmenterOptions \x7d",
  " interface ResolvedSegmenterOptions \x7b locale: string; granularity: \"grapheme\" | \"word\" | \"sentence\" \x7d",
  " interface SegmentIterator<T> extends IteratorObject<T, BuiltinIteratorReturn, unknown> \x7b [Symbol.iterator](): SegmentIterator<T> \x7d",
  " interface Segments \x7b containing(codeUnitIndex?: number): SegmentData | undefined; [Symbol.iterator](): SegmentIterator<SegmentData> \x7d",
  " interface SegmentData \x7b segment: string; index: number; input: string; isWordLike?: boolean \x7d",
  " const Segmenter: \x7b prototype: Segmenter; new (locales?: LocalesArgument, options?: SegmenterOptions): Segmenter; supportedLocalesOf(locales: LocalesArgument, options?: Pick<SegmenterOptions, \"localeMatcher\">): UnicodeBCP47LocaleIdentifier[] \x7d",
  " function supportedValuesOf(key: \"calendar\" | \"collation\" | \"currency\" | \"numberingSystem\" | \"timeZone\" | \"unit\"): string[]"]

/-- What tells whether an object itself has a member. -/
def hasOwnLines : List String := [
  "interface ObjectConstructor",
  " hasOwn(o: object, v: PropertyKey): boolean"]

/-- What gives characters from either end of a text. -/
def textAtLines : List String := [
  "interface String",
  " at(index: number): string | undefined"]

/-- What tells where the groups of a match are. -/
def indexLines : List String := [
  "interface RegExpMatchArray",
  " indices?: RegExpIndicesArray",
  "interface RegExpExecArray",
  " indices?: RegExpIndicesArray",
  "interface RegExpIndicesArray extends Array<[number, number]>",
  " groups?: \x7b [key: string]: [number, number] \x7d",
  "interface RegExp",
  " readonly hasIndices: boolean"]

/-- What makes changed lists of lists. -/
def changedListLines : List String := [
  "interface Array<T>",
  " findLast<S extends T>(predicate: (value: T, index: number, array: T[]) => value is S, thisArg?: any): S | undefined",
  " findLast(predicate: (value: T, index: number, array: T[]) => unknown, thisArg?: any): T | undefined",
  " findLastIndex(predicate: (value: T, index: number, array: T[]) => unknown, thisArg?: any): number",
  " toReversed(): T[]",
  " toSorted(compareFn?: (a: T, b: T) => number): T[]",
  " toSpliced(start: number, deleteCount: number, ...items: T[]): T[]",
  " toSpliced(start: number, deleteCount?: number): T[]",
  " with(index: number, value: T): T[]",
  "interface ReadonlyArray<T>",
  " findLast<S extends T>(predicate: (value: T, index: number, array: readonly T[]) => value is S, thisArg?: any): S | undefined",
  " findLast(predicate: (value: T, index: number, array: readonly T[]) => unknown, thisArg?: any): T | undefined",
  " findLastIndex(predicate: (value: T, index: number, array: readonly T[]) => unknown, thisArg?: any): number",
  " toReversed(): T[]",
  " toSorted(compareFn?: (a: T, b: T) => number): T[]",
  " toSpliced(start: number, deleteCount: number, ...items: T[]): T[]",
  " toSpliced(start: number, deleteCount?: number): T[]",
  " with(index: number, value: T): T[]"]

/-- Symbols may be held loosely. -/
def weakSymbolLines : List String := [
  "interface WeakKeyTypes",
  " symbol: symbol"]

/-- What is declared of ranges of written numbers. -/
def rangeFormatLines : List String := [
  "declare namespace Intl",
  " interface NumberFormatOptionsUseGroupingRegistry \x7b min2: never; auto: never; always: never \x7d",
  " interface NumberFormatOptionsSignDisplayRegistry \x7b negative: never \x7d",
  " interface NumberFormatOptions \x7b roundingPriority?: \"auto\" | \"morePrecision\" | \"lessPrecision\" | undefined; roundingIncrement?: 1 | 2 | 5 | 10 | 20 | 25 | 50 | 100 | 200 | 250 | 500 | 1000 | 2000 | 2500 | 5000 | undefined; roundingMode?: \"ceil\" | \"floor\" | \"expand\" | \"trunc\" | \"halfCeil\" | \"halfFloor\" | \"halfExpand\" | \"halfTrunc\" | \"halfEven\" | undefined; trailingZeroDisplay?: \"auto\" | \"stripIfInteger\" | undefined \x7d",
  " interface ResolvedNumberFormatOptions \x7b roundingPriority: \"auto\" | \"morePrecision\" | \"lessPrecision\"; roundingMode: \"ceil\" | \"floor\" | \"expand\" | \"trunc\" | \"halfCeil\" | \"halfFloor\" | \"halfExpand\" | \"halfTrunc\" | \"halfEven\"; roundingIncrement: 1 | 2 | 5 | 10 | 20 | 25 | 50 | 100 | 200 | 250 | 500 | 1000 | 2000 | 2500 | 5000; trailingZeroDisplay: \"auto\" | \"stripIfInteger\" \x7d",
  " interface NumberRangeFormatPart extends NumberFormatPart \x7b source: \"startRange\" | \"endRange\" | \"shared\" \x7d",
  " type StringNumericLiteral = `$\x7bnumber\x7d` | \"Infinity\" | \"-Infinity\" | \"+Infinity\"",
  " interface NumberFormat \x7b format(value: number | bigint | StringNumericLiteral): string; formatToParts(value: number | bigint | StringNumericLiteral): NumberFormatPart[]; formatRange(start: number | bigint | StringNumericLiteral, end: number | bigint | StringNumericLiteral): string; formatRangeToParts(start: number | bigint | StringNumericLiteral, end: number | bigint | StringNumericLiteral): NumberRangeFormatPart[] \x7d"]

/-- What is declared of memory that grows and is handed on. -/
def growingBufferLines : List String := [
  "interface ArrayBuffer",
  " get maxByteLength(): number",
  " get resizable(): boolean",
  " resize(newByteLength?: number): void",
  " get detached(): boolean",
  " transfer(newByteLength?: number): ArrayBuffer",
  " transferToFixedLength(newByteLength?: number): ArrayBuffer",
  "interface ArrayBufferConstructor",
  " new (byteLength: number, options?: \x7b maxByteLength?: number \x7d): ArrayBuffer"]

/-- What puts items into the groups of a map. -/
def mapGroupLines : List String := [
  "interface MapConstructor",
  " groupBy<K, T>(items: Iterable<T>, keySelector: (item: T, index: number) => K): Map<K, T[]>"]

/-- What puts items into the groups of an object. -/
def groupedLines : List String := [
  "interface ObjectConstructor",
  " groupBy<K extends PropertyKey, T>(items: Iterable<T>, keySelector: (item: T, index: number) => K): Partial<Record<K, T[]>>"]

/-- What is declared of promises with what settles them. -/
def resolverLines : List String := [
  "interface PromiseWithResolvers<T>",
  " promise: Promise<T>",
  " resolve: (value: T | PromiseLike<T>) => void",
  " reject: (reason?: any) => void",
  "interface PromiseConstructor",
  " withResolvers<T>(): PromiseWithResolvers<T>"]

/-- What tells whether a pattern takes sets. -/
def setPatternLines : List String := [
  "interface RegExp",
  " readonly unicodeSets: boolean"]

/-- What is declared of waiting for shared memory. -/
def waitLines : List String := [
  "interface Atomics",
  " waitAsync(typedArray: Int32Array, index: number, value: number, timeout?: number): \x7b async: false; value: \"not-equal\" | \"timed-out\" \x7d | \x7b async: true; value: Promise<\"ok\" | \"timed-out\"> \x7d",
  " waitAsync(typedArray: BigInt64Array, index: number, value: bigint, timeout?: number): \x7b async: false; value: \"not-equal\" | \"timed-out\" \x7d | \x7b async: true; value: Promise<\"ok\" | \"timed-out\"> \x7d",
  "interface SharedArrayBuffer",
  " get growable(): boolean",
  " get maxByteLength(): number",
  " grow(newByteLength?: number): void",
  "interface SharedArrayBufferConstructor",
  " new (byteLength: number, options?: \x7b maxByteLength?: number \x7d): SharedArrayBuffer"]

/-- What is declared of texts that are well formed. -/
def wellFormedLines : List String := [
  "interface String",
  " isWellFormed(): boolean",
  " toWellFormed(): string"]

/-! ## The coming edition -/

/-- What makes lists of items that are waited for. -/
def asyncListLines : List String := [
  "interface ArrayConstructor",
  " fromAsync<T>(iterableOrArrayLike: AsyncIterable<T> | Iterable<T | PromiseLike<T>> | ArrayLike<T | PromiseLike<T>>): Promise<T[]>",
  " fromAsync<T, U>(iterableOrArrayLike: AsyncIterable<T> | Iterable<T> | ArrayLike<T>, mapFn: (value: Awaited<T>, index: number) => U, thisArg?: any): Promise<Awaited<U>[]>"]

/-- What is declared of sets together. -/
def setLines : List String := [
  "interface ReadonlySetLike<T>",
  " keys(): Iterator<T>",
  " has(value: T): boolean",
  " readonly size: number",
  "interface Set<T>",
  " union<U>(other: ReadonlySetLike<U>): Set<T | U>",
  " intersection<U>(other: ReadonlySetLike<U>): Set<T & U>",
  " difference<U>(other: ReadonlySetLike<U>): Set<T>",
  " symmetricDifference<U>(other: ReadonlySetLike<U>): Set<T | U>",
  " isSubsetOf(other: ReadonlySetLike<unknown>): boolean",
  " isSupersetOf(other: ReadonlySetLike<unknown>): boolean",
  " isDisjointFrom(other: ReadonlySetLike<unknown>): boolean",
  "interface ReadonlySet<T>",
  " union<U>(other: ReadonlySetLike<U>): Set<T | U>",
  " intersection<U>(other: ReadonlySetLike<U>): Set<T & U>",
  " difference<U>(other: ReadonlySetLike<U>): Set<T>",
  " symmetricDifference<U>(other: ReadonlySetLike<U>): Set<T | U>",
  " isSubsetOf(other: ReadonlySetLike<unknown>): boolean",
  " isSupersetOf(other: ReadonlySetLike<unknown>): boolean",
  " isDisjointFrom(other: ReadonlySetLike<unknown>): boolean"]

/-- What is declared of what decorators leave. -/
def metadataLines : List String := [
  "interface SymbolConstructor",
  " readonly metadata: unique symbol",
  "interface Function",
  " [Symbol.metadata]: DecoratorMetadata | null"]

/-- What is declared of giving values up. -/
def disposalLines : List String := [
  "interface SymbolConstructor",
  " readonly dispose: unique symbol",
  " readonly asyncDispose: unique symbol",
  "interface Disposable",
  " [Symbol.dispose](): void",
  "interface AsyncDisposable",
  " [Symbol.asyncDispose](): PromiseLike<void>",
  "interface SuppressedError extends Error",
  " error: any",
  " suppressed: any",
  "interface SuppressedErrorConstructor",
  " new (error: any, suppressed: any, message?: string): SuppressedError",
  " (error: any, suppressed: any, message?: string): SuppressedError",
  " readonly prototype: SuppressedError",
  "declare var SuppressedError: SuppressedErrorConstructor",
  "interface DisposableStack",
  " readonly disposed: boolean",
  " dispose(): void",
  " use<T extends Disposable | null | undefined>(value: T): T",
  " adopt<T>(value: T, onDispose: (value: T) => void): T",
  " defer(onDispose: () => void): void",
  " move(): DisposableStack",
  " [Symbol.dispose](): void",
  " readonly [Symbol.toStringTag]: string",
  "interface DisposableStackConstructor",
  " new (): DisposableStack",
  " readonly prototype: DisposableStack",
  "declare var DisposableStack: DisposableStackConstructor",
  "interface AsyncDisposableStack",
  " readonly disposed: boolean",
  " disposeAsync(): Promise<void>",
  " use<T extends AsyncDisposable | Disposable | null | undefined>(value: T): T",
  " adopt<T>(value: T, onDisposeAsync: (value: T) => PromiseLike<void> | void): T",
  " defer(onDisposeAsync: () => PromiseLike<void> | void): void",
  " move(): AsyncDisposableStack",
  " [Symbol.asyncDispose](): Promise<void>",
  " readonly [Symbol.toStringTag]: string",
  "interface AsyncDisposableStackConstructor",
  " new (): AsyncDisposableStack",
  " readonly prototype: AsyncDisposableStack",
  "declare var AsyncDisposableStack: AsyncDisposableStackConstructor",
  "interface IteratorObject<T, TReturn, TNext> extends Disposable",
  "interface AsyncIteratorObject<T, TReturn, TNext> extends AsyncDisposable"]

/-- What is declared of making iterators of iterators. -/
def iteratorStepLines : List String := [
  "interface IteratorObject<T, TReturn, TNext>",
  " [Symbol.iterator](): IteratorObject<T, TReturn, TNext>",
  " map<U>(callbackfn: (value: T, index: number) => U): IteratorObject<U, undefined, unknown>",
  " filter<S extends T>(predicate: (value: T, index: number) => value is S): IteratorObject<S, undefined, unknown>",
  " filter(predicate: (value: T, index: number) => unknown): IteratorObject<T, undefined, unknown>",
  " take(limit: number): IteratorObject<T, undefined, unknown>",
  " drop(count: number): IteratorObject<T, undefined, unknown>",
  " flatMap<U>(callback: (value: T, index: number) => Iterator<U, unknown, undefined> | Iterable<U, unknown, undefined>): IteratorObject<U, undefined, unknown>",
  " reduce(callbackfn: (previousValue: T, currentValue: T, currentIndex: number) => T): T",
  " reduce(callbackfn: (previousValue: T, currentValue: T, currentIndex: number) => T, initialValue: T): T",
  " reduce<U>(callbackfn: (previousValue: U, currentValue: T, currentIndex: number) => U, initialValue: U): U",
  " toArray(): T[]",
  " forEach(callbackfn: (value: T, index: number) => void): void",
  " some(predicate: (value: T, index: number) => unknown): boolean",
  " every(predicate: (value: T, index: number) => unknown): boolean",
  " find<S extends T>(predicate: (value: T, index: number) => value is S): S | undefined",
  " find(predicate: (value: T, index: number) => unknown): T | undefined",
  " readonly [Symbol.toStringTag]: string",
  "interface IteratorConstructor",
  " from<T>(value: Iterator<T, unknown, undefined> | Iterable<T, unknown, undefined>): IteratorObject<T, undefined, unknown>",
  "declare var Iterator: IteratorConstructor"]

/-- What is declared of trying functions. -/
def tryLines : List String := [
  "interface PromiseConstructor",
  " try<T, U extends unknown[]>(callbackFn: (...args: U) => T | PromiseLike<T>, ...args: U): Promise<Awaited<T>>"]

/-- What is declared of small numbers with fractions. -/
def halfNumberLines : List String := [
  "interface Math",
  " f16round(x: number): number",
  "interface DataView<TArrayBuffer extends ArrayBufferLike>",
  " getFloat16(byteOffset: number, littleEndian?: boolean): number",
  " setFloat16(byteOffset: number, value: number, littleEndian?: boolean): void"]

/-- What tells whether a value is a failure. -/
def failureTestLines : List String := [
  "interface ErrorConstructor",
  " isError(error: unknown): error is Error"]

/-- What is declared of pausing. -/
def pauseLines : List String := [
  "interface Atomics",
  " pause(n?: number): void"]

end TypeLineage.Library
