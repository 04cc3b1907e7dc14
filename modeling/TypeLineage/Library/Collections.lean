import TypeLineage.Library.Layout

/-! # Collections and iterators

    What was added to the values that are always there, and beside them maps and
    sets; and going through values step by step. -/

namespace TypeLineage.Library

/-- What was added to the values that are always there. -/
def coreLines : List String := [
  "interface Array<T>",
  " find<S extends T>(predicate: (value: T, index: number, obj: T[]) => value is S, thisArg?: any): S | undefined",
  " find(predicate: (value: T, index: number, obj: T[]) => unknown, thisArg?: any): T | undefined",
  " findIndex(predicate: (value: T, index: number, obj: T[]) => unknown, thisArg?: any): number",
  " fill(value: T, start?: number, end?: number): this",
  " copyWithin(target: number, start: number, end?: number): this",
  " toLocaleString(locales: string | string[], options?: Intl.NumberFormatOptions & Intl.DateTimeFormatOptions): string",
  "interface ArrayConstructor",
  " from<T>(arrayLike: ArrayLike<T>): T[]",
  " from<T, U>(arrayLike: ArrayLike<T>, mapfn: (v: T, k: number) => U, thisArg?: any): U[]",
  " of<T>(...items: T[]): T[]",
  "interface DateConstructor",
  " new (value: number | string | Date): Date",
  "interface Function",
  " readonly name: string",
  "interface Math",
  " clz32(x: number): number",
  " imul(x: number, y: number): number",
  " sign(x: number): number",
  " log10(x: number): number",
  " log2(x: number): number",
  " log1p(x: number): number",
  " expm1(x: number): number",
  " cosh(x: number): number",
  " sinh(x: number): number",
  " tanh(x: number): number",
  " acosh(x: number): number",
  " asinh(x: number): number",
  " atanh(x: number): number",
  " hypot(...values: number[]): number",
  " trunc(x: number): number",
  " fround(x: number): number",
  " cbrt(x: number): number",
  "interface NumberConstructor",
  " readonly EPSILON: number",
  " isFinite(number: unknown): boolean",
  " isInteger(number: unknown): boolean",
  " isNaN(number: unknown): boolean",
  " isSafeInteger(number: unknown): boolean",
  " readonly MAX_SAFE_INTEGER: number",
  " readonly MIN_SAFE_INTEGER: number",
  " parseFloat(string: string): number",
  " parseInt(string: string, radix?: number): number",
  "interface ObjectConstructor",
  " assign<T extends \x7b\x7d, U>(target: T, source: U): T & U",
  " assign<T extends \x7b\x7d, U, V>(target: T, source1: U, source2: V): T & U & V",
  " assign<T extends \x7b\x7d, U, V, W>(target: T, source1: U, source2: V, source3: W): T & U & V & W",
  " assign(target: object, ...sources: any[]): any",
  " getOwnPropertySymbols(o: any): symbol[]",
  " keys(o: \x7b\x7d): string[]",
  " is(value1: any, value2: any): boolean",
  " setPrototypeOf(o: any, proto: object | null): any",
  "interface ReadonlyArray<T>",
  " find<S extends T>(predicate: (value: T, index: number, obj: readonly T[]) => value is S, thisArg?: any): S | undefined",
  " find(predicate: (value: T, index: number, obj: readonly T[]) => unknown, thisArg?: any): T | undefined",
  " findIndex(predicate: (value: T, index: number, obj: readonly T[]) => unknown, thisArg?: any): number",
  " toLocaleString(locales: string | string[], options?: Intl.NumberFormatOptions & Intl.DateTimeFormatOptions): string",
  "interface RegExp",
  " readonly flags: string",
  " readonly sticky: boolean",
  " readonly unicode: boolean",
  "interface RegExpConstructor",
  " new (pattern: RegExp | string, flags?: string): RegExp",
  " (pattern: RegExp | string, flags?: string): RegExp",
  "interface String",
  " codePointAt(pos: number): number | undefined",
  " includes(searchString: string, position?: number): boolean",
  " endsWith(searchString: string, endPosition?: number): boolean",
  " normalize(form: \"NFC\" | \"NFD\" | \"NFKC\" | \"NFKD\"): string",
  " normalize(form?: string): string",
  " repeat(count: number): string",
  " startsWith(searchString: string, position?: number): boolean",
  " anchor(name: string): string",
  " big(): string",
  " blink(): string",
  " bold(): string",
  " fixed(): string",
  " fontcolor(color: string): string",
  " fontsize(size: number): string",
  " fontsize(size: string): string",
  " italics(): string",
  " link(url: string): string",
  " small(): string",
  " strike(): string",
  " sub(): string",
  " sup(): string",
  "interface StringConstructor",
  " fromCodePoint(...codePoints: number[]): string",
  " raw(template: \x7b raw: readonly string[] | ArrayLike<string> \x7d, ...substitutions: any[]): string"]

/-- What is declared of maps and sets. -/
def collectionLines : List String := [
  "interface Map<K, V>",
  " clear(): void",
  " delete(key: K): boolean",
  " forEach(callbackfn: (value: V, key: K, map: Map<K, V>) => void, thisArg?: any): void",
  " get(key: K): V | undefined",
  " has(key: K): boolean",
  " set(key: K, value: V): this",
  " readonly size: number",
  "interface MapConstructor",
  " new (): Map<any, any>",
  " new <K, V>(entries?: readonly (readonly [K, V])[] | null): Map<K, V>",
  " readonly prototype: Map<any, any>",
  "declare var Map: MapConstructor",
  "interface ReadonlyMap<K, V>",
  " forEach(callbackfn: (value: V, key: K, map: ReadonlyMap<K, V>) => void, thisArg?: any): void",
  " get(key: K): V | undefined",
  " has(key: K): boolean",
  " readonly size: number",
  "interface WeakMap<K extends WeakKey, V>",
  " delete(key: K): boolean",
  " get(key: K): V | undefined",
  " has(key: K): boolean",
  " set(key: K, value: V): this",
  "interface WeakMapConstructor",
  " new <K extends WeakKey = WeakKey, V = any>(entries?: readonly (readonly [K, V])[] | null): WeakMap<K, V>",
  " readonly prototype: WeakMap<WeakKey, any>",
  "declare var WeakMap: WeakMapConstructor",
  "interface Set<T>",
  " add(value: T): this",
  " clear(): void",
  " delete(value: T): boolean",
  " forEach(callbackfn: (value: T, value2: T, set: Set<T>) => void, thisArg?: any): void",
  " has(value: T): boolean",
  " readonly size: number",
  "interface SetConstructor",
  " new <T = any>(values?: readonly T[] | null): Set<T>",
  " readonly prototype: Set<any>",
  "declare var Set: SetConstructor",
  "interface ReadonlySet<T>",
  " forEach(callbackfn: (value: T, value2: T, set: ReadonlySet<T>) => void, thisArg?: any): void",
  " has(value: T): boolean",
  " readonly size: number",
  "interface WeakSet<T extends WeakKey>",
  " add(value: T): this",
  " delete(value: T): boolean",
  " has(value: T): boolean",
  "interface WeakSetConstructor",
  " new <T extends WeakKey = WeakKey>(values?: readonly T[] | null): WeakSet<T>",
  " readonly prototype: WeakSet<WeakKey>",
  "declare var WeakSet: WeakSetConstructor"]

/-! ## Iterators

    Going through values step by step, and functions that yield their items. -/

/-- What is declared of iterators. -/
def iteratorLines : List String := [
  "interface SymbolConstructor",
  " readonly iterator: unique symbol",
  "interface IteratorYieldResult<TYield>",
  " done?: false",
  " value: TYield",
  "interface IteratorReturnResult<TReturn>",
  " done: true",
  " value: TReturn",
  "type IteratorResult<T, TReturn = any> = IteratorYieldResult<T> | IteratorReturnResult<TReturn>",
  "interface Iterator<T, TReturn = any, TNext = any>",
  " next(...[value]: [] | [TNext]): IteratorResult<T, TReturn>",
  " return?(value?: TReturn): IteratorResult<T, TReturn>",
  " throw?(e?: any): IteratorResult<T, TReturn>",
  "interface Iterable<T, TReturn = any, TNext = any>",
  " [Symbol.iterator](): Iterator<T, TReturn, TNext>",
  "interface IterableIterator<T, TReturn = any, TNext = any> extends Iterator<T, TReturn, TNext>",
  " [Symbol.iterator](): IterableIterator<T, TReturn, TNext>",
  "interface IteratorObject<T, TReturn = unknown, TNext = unknown> extends Iterator<T, TReturn, TNext>",
  " [Symbol.iterator](): IteratorObject<T, TReturn, TNext>",
  "type BuiltinIteratorReturn = intrinsic",
  "interface ArrayIterator<T> extends IteratorObject<T, BuiltinIteratorReturn, unknown>",
  " [Symbol.iterator](): ArrayIterator<T>",
  "interface Array<T>",
  " [Symbol.iterator](): ArrayIterator<T>",
  " entries(): ArrayIterator<[number, T]>",
  " keys(): ArrayIterator<number>",
  " values(): ArrayIterator<T>",
  "interface ArrayConstructor",
  " from<T>(iterable: Iterable<T> | ArrayLike<T>): T[]",
  " from<T, U>(iterable: Iterable<T> | ArrayLike<T>, mapfn: (v: T, k: number) => U, thisArg?: any): U[]",
  "interface ReadonlyArray<T>",
  " [Symbol.iterator](): ArrayIterator<T>",
  " entries(): ArrayIterator<[number, T]>",
  " keys(): ArrayIterator<number>",
  " values(): ArrayIterator<T>",
  "interface IArguments",
  " [Symbol.iterator](): ArrayIterator<any>",
  "interface MapIterator<T> extends IteratorObject<T, BuiltinIteratorReturn, unknown>",
  " [Symbol.iterator](): MapIterator<T>",
  "interface Map<K, V>",
  " [Symbol.iterator](): MapIterator<[K, V]>",
  " entries(): MapIterator<[K, V]>",
  " keys(): MapIterator<K>",
  " values(): MapIterator<V>",
  "interface ReadonlyMap<K, V>",
  " [Symbol.iterator](): MapIterator<[K, V]>",
  " entries(): MapIterator<[K, V]>",
  " keys(): MapIterator<K>",
  " values(): MapIterator<V>",
  "interface MapConstructor",
  " new (): Map<any, any>",
  " new <K, V>(iterable?: Iterable<readonly [K, V]> | null): Map<K, V>",
  "interface WeakMap<K extends WeakKey, V>",
  "interface WeakMapConstructor",
  " new <K extends WeakKey, V>(iterable: Iterable<readonly [K, V]>): WeakMap<K, V>",
  "interface SetIterator<T> extends IteratorObject<T, BuiltinIteratorReturn, unknown>",
  " [Symbol.iterator](): SetIterator<T>",
  "interface Set<T>",
  " [Symbol.iterator](): SetIterator<T>",
  " entries(): SetIterator<[T, T]>",
  " keys(): SetIterator<T>",
  " values(): SetIterator<T>",
  "interface ReadonlySet<T>",
  " [Symbol.iterator](): SetIterator<T>",
  " entries(): SetIterator<[T, T]>",
  " keys(): SetIterator<T>",
  " values(): SetIterator<T>",
  "interface SetConstructor",
  " new <T>(iterable?: Iterable<T> | null): Set<T>",
  "interface WeakSet<T extends WeakKey>",
  "interface WeakSetConstructor",
  " new <T extends WeakKey = WeakKey>(iterable: Iterable<T>): WeakSet<T>",
  "interface Promise<T>",
  "interface PromiseConstructor",
  " all<T>(values: Iterable<T | PromiseLike<T>>): Promise<Awaited<T>[]>",
  " race<T>(values: Iterable<T | PromiseLike<T>>): Promise<Awaited<T>>",
  "interface StringIterator<T> extends IteratorObject<T, BuiltinIteratorReturn, unknown>",
  " [Symbol.iterator](): StringIterator<T>",
  "interface String",
  " [Symbol.iterator](): StringIterator<string>"]

/-- What is declared of functions that yield. -/
def generatorLines : List String := [
  "interface Generator<T = unknown, TReturn = any, TNext = any> extends IteratorObject<T, TReturn, TNext>",
  " next(...[value]: [] | [TNext]): IteratorResult<T, TReturn>",
  " return(value: TReturn): IteratorResult<T, TReturn>",
  " throw(e: any): IteratorResult<T, TReturn>",
  " [Symbol.iterator](): Generator<T, TReturn, TNext>",
  "interface GeneratorFunction",
  " new (...args: any[]): Generator",
  " (...args: any[]): Generator",
  " readonly length: number",
  " readonly name: string",
  " readonly prototype: Generator",
  "interface GeneratorFunctionConstructor",
  " new (...args: string[]): GeneratorFunction",
  " (...args: string[]): GeneratorFunction",
  " readonly length: number",
  " readonly name: string",
  " readonly prototype: GeneratorFunction"]

/-! ### Steps through what browsers keep

    What browsers keep is gone through one by one. -/

/-- What is declared of steps through what browsers keep. -/
def browserStepLines : List String := [
  "interface FormDataIterator<T> extends IteratorObject<T, BuiltinIteratorReturn, unknown>",
  " [Symbol.iterator](): FormDataIterator<T>",
  "interface FormData",
  " [Symbol.iterator](): FormDataIterator<[string, FormDataEntryValue]>",
  " entries(): FormDataIterator<[string, FormDataEntryValue]>",
  " keys(): FormDataIterator<string>",
  " values(): FormDataIterator<FormDataEntryValue>",
  "interface HeadersIterator<T> extends IteratorObject<T, BuiltinIteratorReturn, unknown>",
  " [Symbol.iterator](): HeadersIterator<T>",
  "interface Headers",
  " [Symbol.iterator](): HeadersIterator<[string, string]>",
  " entries(): HeadersIterator<[string, string]>",
  " keys(): HeadersIterator<string>",
  " values(): HeadersIterator<string>",
  "interface URLSearchParamsIterator<T> extends IteratorObject<T, BuiltinIteratorReturn, unknown>",
  " [Symbol.iterator](): URLSearchParamsIterator<T>",
  "interface URLSearchParams",
  " [Symbol.iterator](): URLSearchParamsIterator<[string, string]>",
  " entries(): URLSearchParamsIterator<[string, string]>",
  " keys(): URLSearchParamsIterator<string>",
  " values(): URLSearchParamsIterator<string>",
  "interface NodeList",
  " [Symbol.iterator](): ArrayIterator<Node>",
  " entries(): ArrayIterator<[number, Node]>",
  " keys(): ArrayIterator<number>",
  " values(): ArrayIterator<Node>",
  "interface NodeListOf<TNode extends Node>",
  " [Symbol.iterator](): ArrayIterator<TNode>",
  " entries(): ArrayIterator<[number, TNode]>",
  " keys(): ArrayIterator<number>",
  " values(): ArrayIterator<TNode>",
  "interface HTMLCollectionBase",
  " [Symbol.iterator](): ArrayIterator<Element>",
  "interface HTMLCollectionOf<T extends Element>",
  " [Symbol.iterator](): ArrayIterator<T>",
  "interface FileList",
  " [Symbol.iterator](): ArrayIterator<File>",
  "interface DOMTokenList",
  " [Symbol.iterator](): ArrayIterator<string>",
  " entries(): ArrayIterator<[number, string]>",
  " keys(): ArrayIterator<number>",
  " values(): ArrayIterator<string>",
  "interface NamedNodeMap",
  " [Symbol.iterator](): ArrayIterator<Attr>",
  "interface CSSStyleDeclaration",
  " [Symbol.iterator](): ArrayIterator<string>"]

/-- What is declared of steps that are waited for. -/
def browserWaitLines : List String := [
  "interface ReadableStreamAsyncIterator<T> extends AsyncIteratorObject<T, BuiltinIteratorReturn, unknown>",
  " [Symbol.asyncIterator](): ReadableStreamAsyncIterator<T>",
  "interface ReadableStream<R = any>",
  " [Symbol.asyncIterator](options?: ReadableStreamIteratorOptions): ReadableStreamAsyncIterator<R>",
  " values(options?: ReadableStreamIteratorOptions): ReadableStreamAsyncIterator<R>",
  "interface ReadableStreamIteratorOptions",
  " preventCancel?: boolean"]

end TypeLineage.Library
