import TypeLineage.Library.Layout

/-! # Values that are always there

    Objects and functions, texts, numbers and truth values, dates, patterns and
    failures; lists that may be changed and lists that may only be read; and how
    texts are compared, and numbers and dates written, where people live. -/

namespace TypeLineage.Library

/-- What is declared of plain values. -/
def valueLines : List String := [
  "declare var NaN: number",
  "declare var Infinity: number",
  "declare function eval(x: string): any",
  "declare function parseInt(string: string, radix?: number): number",
  "declare function parseFloat(string: string): number",
  "declare function isNaN(number: number): boolean",
  "declare function isFinite(number: number): boolean",
  "declare function decodeURI(encodedURI: string): string",
  "declare function decodeURIComponent(encodedURIComponent: string): string",
  "declare function encodeURI(uri: string): string",
  "declare function encodeURIComponent(uriComponent: string | number | boolean): string",
  "declare function escape(string: string): string",
  "declare function unescape(string: string): string",
  "interface Symbol",
  " toString(): string",
  " valueOf(): symbol",
  "declare type PropertyKey = string | number | symbol",
  "interface PropertyDescriptor",
  " configurable?: boolean",
  " enumerable?: boolean",
  " value?: any",
  " writable?: boolean",
  " get?(): any",
  " set?(v: any): void",
  "interface PropertyDescriptorMap",
  " [key: PropertyKey]: PropertyDescriptor",
  "interface Object",
  " constructor: Function",
  " toString(): string",
  " toLocaleString(): string",
  " valueOf(): Object",
  " hasOwnProperty(v: PropertyKey): boolean",
  " isPrototypeOf(v: Object): boolean",
  " propertyIsEnumerable(v: PropertyKey): boolean",
  "interface ObjectConstructor",
  " new (value?: any): Object",
  " (): any",
  " (value: any): any",
  " readonly prototype: Object",
  " getPrototypeOf(o: any): any",
  " getOwnPropertyDescriptor(o: any, p: PropertyKey): PropertyDescriptor | undefined",
  " getOwnPropertyNames(o: any): string[]",
  " create(o: object | null): any",
  " create(o: object | null, properties: PropertyDescriptorMap & ThisType<any>): any",
  " defineProperty<T>(o: T, p: PropertyKey, attributes: PropertyDescriptor & ThisType<any>): T",
  " defineProperties<T>(o: T, properties: PropertyDescriptorMap & ThisType<any>): T",
  " seal<T>(o: T): T",
  " freeze<T extends Function>(f: T): T",
  " freeze<T extends \x7b [idx: string]: U | null | undefined | object \x7d, U extends string | bigint | number | boolean | symbol>(o: T): Readonly<T>",
  " freeze<T>(o: T): Readonly<T>",
  " preventExtensions<T>(o: T): T",
  " isSealed(o: any): boolean",
  " isFrozen(o: any): boolean",
  " isExtensible(o: any): boolean",
  " keys(o: object): string[]",
  "declare var Object: ObjectConstructor",
  "interface Function",
  " apply(this: Function, thisArg: any, argArray?: any): any",
  " call(this: Function, thisArg: any, ...argArray: any[]): any",
  " bind(this: Function, thisArg: any, ...argArray: any[]): any",
  " toString(): string",
  " prototype: any",
  " readonly length: number",
  " arguments: any",
  " caller: Function",
  "interface FunctionConstructor",
  " new (...args: string[]): Function",
  " (...args: string[]): Function",
  " readonly prototype: Function",
  "declare var Function: FunctionConstructor",
  "type ThisParameterType<T> = T extends (this: infer U, ...args: never) => any ? U : unknown",
  "type OmitThisParameter<T> = unknown extends ThisParameterType<T> ? T : T extends (...args: infer A) => infer R ? (...args: A) => R : T",
  "interface CallableFunction extends Function",
  " apply<T, R>(this: (this: T) => R, thisArg: T): R",
  " apply<T, A extends any[], R>(this: (this: T, ...args: A) => R, thisArg: T, args: A): R",
  " call<T, A extends any[], R>(this: (this: T, ...args: A) => R, thisArg: T, ...args: A): R",
  " bind<T>(this: T, thisArg: ThisParameterType<T>): OmitThisParameter<T>",
  " bind<T, A extends any[], B extends any[], R>(this: (this: T, ...args: [...A, ...B]) => R, thisArg: T, ...args: A): (...args: B) => R",
  "interface NewableFunction extends Function",
  " apply<T>(this: new () => T, thisArg: T): void",
  " apply<T, A extends any[]>(this: new (...args: A) => T, thisArg: T, args: A): void",
  " call<T, A extends any[]>(this: new (...args: A) => T, thisArg: T, ...args: A): void",
  " bind<T>(this: T, thisArg: any): T",
  " bind<A extends any[], B extends any[], R>(this: new (...args: [...A, ...B]) => R, thisArg: any, ...args: A): new (...args: B) => R",
  "interface IArguments",
  " [index: number]: any",
  " length: number",
  " callee: Function",
  "interface String",
  " toString(): string",
  " charAt(pos: number): string",
  " charCodeAt(index: number): number",
  " concat(...strings: string[]): string",
  " indexOf(searchString: string, position?: number): number",
  " lastIndexOf(searchString: string, position?: number): number",
  " localeCompare(that: string): number",
  " match(regexp: string | RegExp): RegExpMatchArray | null",
  " replace(searchValue: string | RegExp, replaceValue: string): string",
  " replace(searchValue: string | RegExp, replacer: (substring: string, ...args: any[]) => string): string",
  " search(regexp: string | RegExp): number",
  " slice(start?: number, end?: number): string",
  " split(separator: string | RegExp, limit?: number): string[]",
  " substring(start: number, end?: number): string",
  " toLowerCase(): string",
  " toLocaleLowerCase(locales?: string | string[]): string",
  " toUpperCase(): string",
  " toLocaleUpperCase(locales?: string | string[]): string",
  " trim(): string",
  " readonly length: number",
  " substr(from: number, length?: number): string",
  " valueOf(): string",
  " readonly [index: number]: string",
  "interface StringConstructor",
  " new (value?: any): String",
  " (value?: any): string",
  " readonly prototype: String",
  " fromCharCode(...codes: number[]): string",
  "declare var String: StringConstructor",
  "interface Boolean",
  " valueOf(): boolean",
  "interface BooleanConstructor",
  " new (value?: any): Boolean",
  " <T>(value?: T): boolean",
  " readonly prototype: Boolean",
  "declare var Boolean: BooleanConstructor",
  "interface Number",
  " toString(radix?: number): string",
  " toFixed(fractionDigits?: number): string",
  " toExponential(fractionDigits?: number): string",
  " toPrecision(precision?: number): string",
  " valueOf(): number",
  "interface NumberConstructor",
  " new (value?: any): Number",
  " (value?: any): number",
  " readonly prototype: Number",
  " readonly MAX_VALUE: number",
  " readonly MIN_VALUE: number",
  " readonly NaN: number",
  " readonly NEGATIVE_INFINITY: number",
  " readonly POSITIVE_INFINITY: number",
  "declare var Number: NumberConstructor",
  "interface TemplateStringsArray extends ReadonlyArray<string>",
  " readonly raw: readonly string[]",
  "interface ImportMeta",
  "interface ImportCallOptions",
  " assert?: ImportAssertions",
  " with?: ImportAttributes",
  "interface ImportAssertions",
  " [key: string]: string",
  "interface ImportAttributes",
  " [key: string]: string",
  "interface Math",
  " readonly E: number",
  " readonly LN10: number",
  " readonly LN2: number",
  " readonly LOG2E: number",
  " readonly LOG10E: number",
  " readonly PI: number",
  " readonly SQRT1_2: number",
  " readonly SQRT2: number",
  " abs(x: number): number",
  " acos(x: number): number",
  " asin(x: number): number",
  " atan(x: number): number",
  " atan2(y: number, x: number): number",
  " ceil(x: number): number",
  " cos(x: number): number",
  " exp(x: number): number",
  " floor(x: number): number",
  " log(x: number): number",
  " max(...values: number[]): number",
  " min(...values: number[]): number",
  " pow(x: number, y: number): number",
  " random(): number",
  " round(x: number): number",
  " sin(x: number): number",
  " sqrt(x: number): number",
  " tan(x: number): number",
  "declare var Math: Math",
  "interface Date",
  " toString(): string",
  " toDateString(): string",
  " toTimeString(): string",
  " toLocaleString(): string",
  " toLocaleDateString(): string",
  " toLocaleTimeString(): string",
  " valueOf(): number",
  " getTime(): number",
  " getFullYear(): number",
  " getUTCFullYear(): number",
  " getMonth(): number",
  " getUTCMonth(): number",
  " getDate(): number",
  " getUTCDate(): number",
  " getDay(): number",
  " getUTCDay(): number",
  " getHours(): number",
  " getUTCHours(): number",
  " getMinutes(): number",
  " getUTCMinutes(): number",
  " getSeconds(): number",
  " getUTCSeconds(): number",
  " getMilliseconds(): number",
  " getUTCMilliseconds(): number",
  " getTimezoneOffset(): number",
  " setTime(time: number): number",
  " setMilliseconds(ms: number): number",
  " setUTCMilliseconds(ms: number): number",
  " setSeconds(sec: number, ms?: number): number",
  " setUTCSeconds(sec: number, ms?: number): number",
  " setMinutes(min: number, sec?: number, ms?: number): number",
  " setUTCMinutes(min: number, sec?: number, ms?: number): number",
  " setHours(hours: number, min?: number, sec?: number, ms?: number): number",
  " setUTCHours(hours: number, min?: number, sec?: number, ms?: number): number",
  " setDate(date: number): number",
  " setUTCDate(date: number): number",
  " setMonth(month: number, date?: number): number",
  " setUTCMonth(month: number, date?: number): number",
  " setFullYear(year: number, month?: number, date?: number): number",
  " setUTCFullYear(year: number, month?: number, date?: number): number",
  " toUTCString(): string",
  " toISOString(): string",
  " toJSON(key?: any): string",
  "interface DateConstructor",
  " new (): Date",
  " new (value: number | string): Date",
  " new (year: number, monthIndex: number, date?: number, hours?: number, minutes?: number, seconds?: number, ms?: number): Date",
  " (): string",
  " readonly prototype: Date",
  " parse(s: string): number",
  " UTC(year: number, monthIndex: number, date?: number, hours?: number, minutes?: number, seconds?: number, ms?: number): number",
  " now(): number",
  "declare var Date: DateConstructor",
  "interface RegExpMatchArray extends Array<string>",
  " index?: number",
  " input?: string",
  " 0: string",
  "interface RegExpExecArray extends Array<string>",
  " index: number",
  " input: string",
  " 0: string",
  "interface RegExp",
  " exec(string: string): RegExpExecArray | null",
  " test(string: string): boolean",
  " readonly source: string",
  " readonly global: boolean",
  " readonly ignoreCase: boolean",
  " readonly multiline: boolean",
  " lastIndex: number",
  " compile(pattern: string, flags?: string): this",
  "interface RegExpConstructor",
  " new (pattern: RegExp | string): RegExp",
  " new (pattern: string, flags?: string): RegExp",
  " (pattern: RegExp | string): RegExp",
  " (pattern: string, flags?: string): RegExp",
  " readonly \"prototype\": RegExp",
  " \"$1\": string",
  " \"$2\": string",
  " \"$3\": string",
  " \"$4\": string",
  " \"$5\": string",
  " \"$6\": string",
  " \"$7\": string",
  " \"$8\": string",
  " \"$9\": string",
  " \"input\": string",
  " \"$_\": string",
  " \"lastMatch\": string",
  " \"$&\": string",
  " \"lastParen\": string",
  " \"$+\": string",
  " \"leftContext\": string",
  " \"$`\": string",
  " \"rightContext\": string",
  " \"$'\": string",
  "declare var RegExp: RegExpConstructor",
  "interface Error",
  " name: string",
  " message: string",
  " stack?: string",
  "interface ErrorConstructor",
  " new (message?: string): Error",
  " (message?: string): Error",
  " readonly prototype: Error",
  "declare var Error: ErrorConstructor",
  "interface EvalError extends Error",
  "interface EvalErrorConstructor extends ErrorConstructor",
  " new (message?: string): EvalError",
  " (message?: string): EvalError",
  " readonly prototype: EvalError",
  "declare var EvalError: EvalErrorConstructor",
  "interface RangeError extends Error",
  "interface RangeErrorConstructor extends ErrorConstructor",
  " new (message?: string): RangeError",
  " (message?: string): RangeError",
  " readonly prototype: RangeError",
  "declare var RangeError: RangeErrorConstructor",
  "interface ReferenceError extends Error",
  "interface ReferenceErrorConstructor extends ErrorConstructor",
  " new (message?: string): ReferenceError",
  " (message?: string): ReferenceError",
  " readonly prototype: ReferenceError",
  "declare var ReferenceError: ReferenceErrorConstructor",
  "interface SyntaxError extends Error",
  "interface SyntaxErrorConstructor extends ErrorConstructor",
  " new (message?: string): SyntaxError",
  " (message?: string): SyntaxError",
  " readonly prototype: SyntaxError",
  "declare var SyntaxError: SyntaxErrorConstructor",
  "interface TypeError extends Error",
  "interface TypeErrorConstructor extends ErrorConstructor",
  " new (message?: string): TypeError",
  " (message?: string): TypeError",
  " readonly prototype: TypeError",
  "declare var TypeError: TypeErrorConstructor",
  "interface URIError extends Error",
  "interface URIErrorConstructor extends ErrorConstructor",
  " new (message?: string): URIError",
  " (message?: string): URIError",
  " readonly prototype: URIError",
  "declare var URIError: URIErrorConstructor",
  "interface JSON",
  " parse(text: string, reviver?: (this: any, key: string, value: any) => any): any",
  " stringify(value: any, replacer?: (this: any, key: string, value: any) => any, space?: string | number): string",
  " stringify(value: any, replacer?: (number | string)[] | null, space?: string | number): string",
  "declare var JSON: JSON"]

/-- What is declared of lists. -/
def listLines : List String := [
  "interface ReadonlyArray<T>",
  " readonly length: number",
  " toString(): string",
  " toLocaleString(): string",
  " concat(...items: ConcatArray<T>[]): T[]",
  " concat(...items: (T | ConcatArray<T>)[]): T[]",
  " join(separator?: string): string",
  " slice(start?: number, end?: number): T[]",
  " indexOf(searchElement: T, fromIndex?: number): number",
  " lastIndexOf(searchElement: T, fromIndex?: number): number",
  " every<S extends T>(predicate: (value: T, index: number, array: readonly T[]) => value is S, thisArg?: any): this is readonly S[]",
  " every(predicate: (value: T, index: number, array: readonly T[]) => unknown, thisArg?: any): boolean",
  " some(predicate: (value: T, index: number, array: readonly T[]) => unknown, thisArg?: any): boolean",
  " forEach(callbackfn: (value: T, index: number, array: readonly T[]) => void, thisArg?: any): void",
  " map<U>(callbackfn: (value: T, index: number, array: readonly T[]) => U, thisArg?: any): U[]",
  " filter<S extends T>(predicate: (value: T, index: number, array: readonly T[]) => value is S, thisArg?: any): S[]",
  " filter(predicate: (value: T, index: number, array: readonly T[]) => unknown, thisArg?: any): T[]",
  " reduce(callbackfn: (previousValue: T, currentValue: T, currentIndex: number, array: readonly T[]) => T): T",
  " reduce(callbackfn: (previousValue: T, currentValue: T, currentIndex: number, array: readonly T[]) => T, initialValue: T): T",
  " reduce<U>(callbackfn: (previousValue: U, currentValue: T, currentIndex: number, array: readonly T[]) => U, initialValue: U): U",
  " reduceRight(callbackfn: (previousValue: T, currentValue: T, currentIndex: number, array: readonly T[]) => T): T",
  " reduceRight(callbackfn: (previousValue: T, currentValue: T, currentIndex: number, array: readonly T[]) => T, initialValue: T): T",
  " reduceRight<U>(callbackfn: (previousValue: U, currentValue: T, currentIndex: number, array: readonly T[]) => U, initialValue: U): U",
  " readonly [n: number]: T",
  "interface ConcatArray<T>",
  " readonly length: number",
  " readonly [n: number]: T",
  " join(separator?: string): string",
  " slice(start?: number, end?: number): T[]",
  "interface Array<T>",
  " length: number",
  " toString(): string",
  " toLocaleString(): string",
  " pop(): T | undefined",
  " push(...items: T[]): number",
  " concat(...items: ConcatArray<T>[]): T[]",
  " concat(...items: (T | ConcatArray<T>)[]): T[]",
  " join(separator?: string): string",
  " reverse(): T[]",
  " shift(): T | undefined",
  " slice(start?: number, end?: number): T[]",
  " sort(compareFn?: (a: T, b: T) => number): this",
  " splice(start: number, deleteCount?: number): T[]",
  " splice(start: number, deleteCount: number, ...items: T[]): T[]",
  " unshift(...items: T[]): number",
  " indexOf(searchElement: T, fromIndex?: number): number",
  " lastIndexOf(searchElement: T, fromIndex?: number): number",
  " every<S extends T>(predicate: (value: T, index: number, array: T[]) => value is S, thisArg?: any): this is S[]",
  " every(predicate: (value: T, index: number, array: T[]) => unknown, thisArg?: any): boolean",
  " some(predicate: (value: T, index: number, array: T[]) => unknown, thisArg?: any): boolean",
  " forEach(callbackfn: (value: T, index: number, array: T[]) => void, thisArg?: any): void",
  " map<U>(callbackfn: (value: T, index: number, array: T[]) => U, thisArg?: any): U[]",
  " filter<S extends T>(predicate: (value: T, index: number, array: T[]) => value is S, thisArg?: any): S[]",
  " filter(predicate: (value: T, index: number, array: T[]) => unknown, thisArg?: any): T[]",
  " reduce(callbackfn: (previousValue: T, currentValue: T, currentIndex: number, array: T[]) => T): T",
  " reduce(callbackfn: (previousValue: T, currentValue: T, currentIndex: number, array: T[]) => T, initialValue: T): T",
  " reduce<U>(callbackfn: (previousValue: U, currentValue: T, currentIndex: number, array: T[]) => U, initialValue: U): U",
  " reduceRight(callbackfn: (previousValue: T, currentValue: T, currentIndex: number, array: T[]) => T): T",
  " reduceRight(callbackfn: (previousValue: T, currentValue: T, currentIndex: number, array: T[]) => T, initialValue: T): T",
  " reduceRight<U>(callbackfn: (previousValue: U, currentValue: T, currentIndex: number, array: T[]) => U, initialValue: U): U",
  " [n: number]: T",
  "interface ArrayConstructor",
  " new (arrayLength?: number): any[]",
  " new <T>(arrayLength: number): T[]",
  " new <T>(...items: T[]): T[]",
  " (arrayLength?: number): any[]",
  " <T>(arrayLength: number): T[]",
  " <T>(...items: T[]): T[]",
  " isArray(arg: any): arg is any[]",
  " readonly prototype: any[]",
  "declare var Array: ArrayConstructor",
  "interface TypedPropertyDescriptor<T>",
  " enumerable?: boolean",
  " configurable?: boolean",
  " writable?: boolean",
  " value?: T",
  " get?: () => T",
  " set?: (value: T) => void",
  "interface ArrayLike<T>",
  " readonly length: number",
  " readonly [n: number]: T"]

/-- What is declared of locales. -/
def localeLines : List String := [
  "declare namespace Intl",
  " interface CollatorOptions \x7b usage?: \"sort\" | \"search\" | undefined; localeMatcher?: \"lookup\" | \"best fit\" | undefined; numeric?: boolean | undefined; caseFirst?: \"upper\" | \"lower\" | \"false\" | undefined; sensitivity?: \"base\" | \"accent\" | \"case\" | \"variant\" | undefined; ignorePunctuation?: boolean | undefined \x7d",
  " interface ResolvedCollatorOptions \x7b locale: string; usage: string; sensitivity: string; ignorePunctuation: boolean; collation: string; caseFirst: string; numeric: boolean \x7d",
  " interface Collator \x7b compare(x: string, y: string): number; resolvedOptions(): ResolvedCollatorOptions \x7d",
  " interface CollatorConstructor \x7b new (locales?: string | string[], options?: CollatorOptions): Collator; (locales?: string | string[], options?: CollatorOptions): Collator; supportedLocalesOf(locales: string | string[], options?: CollatorOptions): string[] \x7d",
  " var Collator: CollatorConstructor",
  " interface NumberFormatOptions \x7b localeMatcher?: \"lookup\" | \"best fit\" | undefined; style?: string | undefined; currency?: string | undefined; currencyDisplay?: string | undefined; useGrouping?: boolean | undefined; minimumIntegerDigits?: number | undefined; minimumFractionDigits?: number | undefined; maximumFractionDigits?: number | undefined; minimumSignificantDigits?: number | undefined; maximumSignificantDigits?: number | undefined \x7d",
  " interface ResolvedNumberFormatOptions \x7b locale: string; numberingSystem: string; style: string; currency?: string; minimumIntegerDigits: number; minimumFractionDigits?: number; maximumFractionDigits?: number; minimumSignificantDigits?: number; maximumSignificantDigits?: number; useGrouping: boolean \x7d",
  " interface NumberFormat \x7b format(value: number): string; resolvedOptions(): ResolvedNumberFormatOptions \x7d",
  " interface NumberFormatConstructor \x7b new (locales?: string | string[], options?: NumberFormatOptions): NumberFormat; (locales?: string | string[], options?: NumberFormatOptions): NumberFormat; supportedLocalesOf(locales: string | string[], options?: NumberFormatOptions): string[]; readonly prototype: NumberFormat \x7d",
  " var NumberFormat: NumberFormatConstructor",
  " interface DateTimeFormatOptions \x7b localeMatcher?: \"best fit\" | \"lookup\" | undefined; weekday?: \"long\" | \"short\" | \"narrow\" | undefined; era?: \"long\" | \"short\" | \"narrow\" | undefined; year?: \"numeric\" | \"2-digit\" | undefined; month?: \"numeric\" | \"2-digit\" | \"long\" | \"short\" | \"narrow\" | undefined; day?: \"numeric\" | \"2-digit\" | undefined; hour?: \"numeric\" | \"2-digit\" | undefined; minute?: \"numeric\" | \"2-digit\" | undefined; second?: \"numeric\" | \"2-digit\" | undefined; timeZoneName?: \"short\" | \"long\" | undefined; formatMatcher?: \"best fit\" | \"basic\" | undefined; hour12?: boolean | undefined; timeZone?: string | undefined \x7d",
  " interface ResolvedDateTimeFormatOptions \x7b locale: string; calendar: string; numberingSystem: string; timeZone: string; hour12?: boolean; weekday?: string; era?: string; year?: string; month?: string; day?: string; hour?: string; minute?: string; second?: string; timeZoneName?: string \x7d",
  " interface DateTimeFormat \x7b format(date?: Date | number): string; resolvedOptions(): ResolvedDateTimeFormatOptions \x7d",
  " interface DateTimeFormatConstructor \x7b new (locales?: string | string[], options?: DateTimeFormatOptions): DateTimeFormat; (locales?: string | string[], options?: DateTimeFormatOptions): DateTimeFormat; supportedLocalesOf(locales: string | string[], options?: DateTimeFormatOptions): string[]; readonly prototype: DateTimeFormat \x7d",
  " var DateTimeFormat: DateTimeFormatConstructor",
  "interface String",
  " localeCompare(that: string, locales?: string | string[], options?: Intl.CollatorOptions): number",
  "interface Number",
  " toLocaleString(locales?: string | string[], options?: Intl.NumberFormatOptions): string",
  "interface Date",
  " toLocaleString(locales?: string | string[], options?: Intl.DateTimeFormatOptions): string",
  " toLocaleDateString(locales?: string | string[], options?: Intl.DateTimeFormatOptions): string",
  " toLocaleTimeString(locales?: string | string[], options?: Intl.DateTimeFormatOptions): string"]

end TypeLineage.Library
