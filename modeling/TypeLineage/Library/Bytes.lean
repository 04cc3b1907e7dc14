import TypeLineage.Library.Layout

/-! # Bytes

    Stretches of memory, and the lists of numbers that they are seen as.  Those
    lists differ in their names alone. -/

namespace TypeLineage.Library

/-- What is declared of stretches of memory. -/
def byteLines : List String := [
  "interface ArrayBuffer",
  " readonly byteLength: number",
  " slice(begin?: number, end?: number): ArrayBuffer",
  "interface ArrayBufferTypes",
  " ArrayBuffer: ArrayBuffer",
  "type ArrayBufferLike = ArrayBufferTypes[keyof ArrayBufferTypes]",
  "interface ArrayBufferConstructor",
  " readonly prototype: ArrayBuffer",
  " new (byteLength: number): ArrayBuffer",
  " isView(arg: any): arg is ArrayBufferView",
  "declare var ArrayBuffer: ArrayBufferConstructor",
  "interface ArrayBufferView<TArrayBuffer extends ArrayBufferLike = ArrayBufferLike>",
  " readonly buffer: TArrayBuffer",
  " readonly byteLength: number",
  " readonly byteOffset: number",
  "interface DataView<TArrayBuffer extends ArrayBufferLike = ArrayBufferLike>",
  " readonly buffer: TArrayBuffer",
  " readonly byteLength: number",
  " readonly byteOffset: number",
  " getFloat32(byteOffset: number, littleEndian?: boolean): number",
  " getFloat64(byteOffset: number, littleEndian?: boolean): number",
  " getInt8(byteOffset: number): number",
  " getInt16(byteOffset: number, littleEndian?: boolean): number",
  " getInt32(byteOffset: number, littleEndian?: boolean): number",
  " getUint8(byteOffset: number): number",
  " getUint16(byteOffset: number, littleEndian?: boolean): number",
  " getUint32(byteOffset: number, littleEndian?: boolean): number",
  " setFloat32(byteOffset: number, value: number, littleEndian?: boolean): void",
  " setFloat64(byteOffset: number, value: number, littleEndian?: boolean): void",
  " setInt8(byteOffset: number, value: number): void",
  " setInt16(byteOffset: number, value: number, littleEndian?: boolean): void",
  " setInt32(byteOffset: number, value: number, littleEndian?: boolean): void",
  " setUint8(byteOffset: number, value: number): void",
  " setUint16(byteOffset: number, value: number, littleEndian?: boolean): void",
  " setUint32(byteOffset: number, value: number, littleEndian?: boolean): void",
  "interface DataViewConstructor",
  " readonly prototype: DataView<ArrayBufferLike>",
  " new <TArrayBuffer extends ArrayBufferLike & \x7b BYTES_PER_ELEMENT?: never \x7d>(buffer: TArrayBuffer, byteOffset?: number, byteLength?: number): DataView<TArrayBuffer>",
  "declare var DataView: DataViewConstructor"]

/-- The names of the lists of numbers of one size. -/
def numberLists : List String := [
  "Int8Array", "Uint8Array", "Uint8ClampedArray", "Int16Array", "Uint16Array", "Int32Array",
  "Uint32Array", "Float32Array", "Float64Array"]

/-- What is declared of a list of numbers of one size. -/
def numberListLines (name : String) : List String := [
  "interface " ++ name ++ "<TArrayBuffer extends ArrayBufferLike = ArrayBufferLike>",
  " readonly BYTES_PER_ELEMENT: number",
  " readonly buffer: TArrayBuffer",
  " readonly byteLength: number",
  " readonly byteOffset: number",
  " copyWithin(target: number, start: number, end?: number): this",
  " every(predicate: (value: number, index: number, array: this) => unknown, thisArg?: any): boolean",
  " fill(value: number, start?: number, end?: number): this",
  " filter(predicate: (value: number, index: number, array: this) => any, thisArg?: any): " ++ name ++ "<ArrayBuffer>",
  " find(predicate: (value: number, index: number, obj: this) => boolean, thisArg?: any): number | undefined",
  " findIndex(predicate: (value: number, index: number, obj: this) => boolean, thisArg?: any): number",
  " forEach(callbackfn: (value: number, index: number, array: this) => void, thisArg?: any): void",
  " indexOf(searchElement: number, fromIndex?: number): number",
  " join(separator?: string): string",
  " lastIndexOf(searchElement: number, fromIndex?: number): number",
  " readonly length: number",
  " map(callbackfn: (value: number, index: number, array: this) => number, thisArg?: any): " ++ name ++ "<ArrayBuffer>",
  " reduce(callbackfn: (previousValue: number, currentValue: number, currentIndex: number, array: this) => number): number",
  " reduce(callbackfn: (previousValue: number, currentValue: number, currentIndex: number, array: this) => number, initialValue: number): number",
  " reduce<U>(callbackfn: (previousValue: U, currentValue: number, currentIndex: number, array: this) => U, initialValue: U): U",
  " reduceRight(callbackfn: (previousValue: number, currentValue: number, currentIndex: number, array: this) => number): number",
  " reduceRight(callbackfn: (previousValue: number, currentValue: number, currentIndex: number, array: this) => number, initialValue: number): number",
  " reduceRight<U>(callbackfn: (previousValue: U, currentValue: number, currentIndex: number, array: this) => U, initialValue: U): U",
  " reverse(): this",
  " set(array: ArrayLike<number>, offset?: number): void",
  " slice(start?: number, end?: number): " ++ name ++ "<ArrayBuffer>",
  " some(predicate: (value: number, index: number, array: this) => unknown, thisArg?: any): boolean",
  " sort(compareFn?: (a: number, b: number) => number): this",
  " subarray(begin?: number, end?: number): " ++ name ++ "<TArrayBuffer>",
  " toLocaleString(): string",
  " toString(): string",
  " valueOf(): this",
  " [index: number]: number",
  "interface " ++ name ++ "Constructor",
  " readonly prototype: " ++ name ++ "<ArrayBufferLike>",
  " new (length: number): " ++ name ++ "<ArrayBuffer>",
  " new (array: ArrayLike<number>): " ++ name ++ "<ArrayBuffer>",
  " new <TArrayBuffer extends ArrayBufferLike = ArrayBuffer>(buffer: TArrayBuffer, byteOffset?: number, length?: number): " ++ name ++ "<TArrayBuffer>",
  " new (buffer: ArrayBuffer, byteOffset?: number, length?: number): " ++ name ++ "<ArrayBuffer>",
  " new (array: ArrayLike<number> | ArrayBuffer): " ++ name ++ "<ArrayBuffer>",
  " readonly BYTES_PER_ELEMENT: number",
  " of(...items: number[]): " ++ name ++ "<ArrayBuffer>",
  " from(arrayLike: ArrayLike<number>): " ++ name ++ "<ArrayBuffer>",
  " from<T>(arrayLike: ArrayLike<T>, mapfn: (v: T, k: number) => number, thisArg?: any): " ++ name ++ "<ArrayBuffer>",
  "declare var " ++ name ++ ": " ++ name ++ "Constructor"]

/-- What is declared of going through a list of numbers of one size. -/
def numberListSteps (name : String) : List String := [
  "interface " ++ name ++ "<TArrayBuffer extends ArrayBufferLike>",
  " [Symbol.iterator](): ArrayIterator<number>",
  " entries(): ArrayIterator<[number, number]>",
  " keys(): ArrayIterator<number>",
  " values(): ArrayIterator<number>",
  "interface " ++ name ++ "Constructor",
  " new (elements: Iterable<number>): " ++ name ++ "<ArrayBuffer>",
  " from(elements: Iterable<number>): " ++ name ++ "<ArrayBuffer>",
  " from<T>(elements: Iterable<T>, mapfn?: (v: T, k: number) => number, thisArg?: any): " ++ name ++ "<ArrayBuffer>"]

/-- What tells a list of numbers of one size by its name. -/
def numberListTags (name : String) : List String := [
  "interface " ++ name ++ "<TArrayBuffer extends ArrayBufferLike>",
  " readonly [Symbol.toStringTag]: \"" ++ name ++ "\""]

/-- How a list of numbers of one size is written in locales. -/
def numberListTexts (name : String) : List String := [
  "interface " ++ name ++ "<TArrayBuffer extends ArrayBufferLike>",
  " toLocaleString(locales: string | string[], options?: Intl.NumberFormatOptions): string"]

/-- What tells whether a list of numbers of one size has an item. -/
def numberListTests (name : String) : List String := [
  "interface " ++ name ++ "<TArrayBuffer extends ArrayBufferLike>",
  " includes(searchElement: number, fromIndex?: number): boolean"]

/-- What gives items from either end of a list of numbers of one size. -/
def numberListEnds (element name : String) : List String := [
  "interface " ++ name ++ "<TArrayBuffer extends ArrayBufferLike>",
  " at(index: number): " ++ element ++ " | undefined"]

/-- What makes changed lists of a list of numbers of one size. -/
def changedNumberListLines (element name : String) : List String := [
  "interface " ++ name ++ "<TArrayBuffer extends ArrayBufferLike>",
  " findLast<S extends " ++ element ++ ">(predicate: (value: " ++ element ++ ", index: number, array: this) => value is S, thisArg?: any): S | undefined",
  " findLast(predicate: (value: " ++ element ++ ", index: number, array: this) => unknown, thisArg?: any): " ++ element ++ " | undefined",
  " findLastIndex(predicate: (value: " ++ element ++ ", index: number, array: this) => unknown, thisArg?: any): number",
  " toReversed(): " ++ name ++ "<ArrayBuffer>",
  " toSorted(compareFn?: (a: " ++ element ++ ", b: " ++ element ++ ") => number): " ++ name ++ "<ArrayBuffer>",
  " with(index: number, value: " ++ element ++ "): " ++ name ++ "<ArrayBuffer>"]

/-- What makes an empty list of numbers of one size. -/
def emptyNumberListLines (name : String) : List String := [
  "interface " ++ name ++ "Constructor",
  " new (): " ++ name ++ "<ArrayBuffer>"]

/-- The names of the lists of big numbers. -/
def bigNumberLists : List String := ["BigInt64Array", "BigUint64Array"]

/-- What is declared of a list of big numbers. -/
def bigNumberListLines (name : String) : List String := [
  "interface " ++ name ++ "<TArrayBuffer extends ArrayBufferLike = ArrayBufferLike>",
  " readonly BYTES_PER_ELEMENT: number",
  " readonly buffer: TArrayBuffer",
  " readonly byteLength: number",
  " readonly byteOffset: number",
  " copyWithin(target: number, start: number, end?: number): this",
  " entries(): ArrayIterator<[number, bigint]>",
  " every(predicate: (value: bigint, index: number, array: " ++ name ++ "<TArrayBuffer>) => boolean, thisArg?: any): boolean",
  " fill(value: bigint, start?: number, end?: number): this",
  " filter(predicate: (value: bigint, index: number, array: " ++ name ++ "<TArrayBuffer>) => any, thisArg?: any): " ++ name ++ "<ArrayBuffer>",
  " find(predicate: (value: bigint, index: number, array: " ++ name ++ "<TArrayBuffer>) => boolean, thisArg?: any): bigint | undefined",
  " findIndex(predicate: (value: bigint, index: number, array: " ++ name ++ "<TArrayBuffer>) => boolean, thisArg?: any): number",
  " forEach(callbackfn: (value: bigint, index: number, array: " ++ name ++ "<TArrayBuffer>) => void, thisArg?: any): void",
  " includes(searchElement: bigint, fromIndex?: number): boolean",
  " indexOf(searchElement: bigint, fromIndex?: number): number",
  " join(separator?: string): string",
  " keys(): ArrayIterator<number>",
  " lastIndexOf(searchElement: bigint, fromIndex?: number): number",
  " readonly length: number",
  " map(callbackfn: (value: bigint, index: number, array: " ++ name ++ "<TArrayBuffer>) => bigint, thisArg?: any): " ++ name ++ "<ArrayBuffer>",
  " reduce(callbackfn: (previousValue: bigint, currentValue: bigint, currentIndex: number, array: " ++ name ++ "<TArrayBuffer>) => bigint): bigint",
  " reduce<U>(callbackfn: (previousValue: U, currentValue: bigint, currentIndex: number, array: " ++ name ++ "<TArrayBuffer>) => U, initialValue: U): U",
  " reduceRight(callbackfn: (previousValue: bigint, currentValue: bigint, currentIndex: number, array: " ++ name ++ "<TArrayBuffer>) => bigint): bigint",
  " reduceRight<U>(callbackfn: (previousValue: U, currentValue: bigint, currentIndex: number, array: " ++ name ++ "<TArrayBuffer>) => U, initialValue: U): U",
  " reverse(): this",
  " set(array: ArrayLike<bigint>, offset?: number): void",
  " slice(start?: number, end?: number): " ++ name ++ "<ArrayBuffer>",
  " some(predicate: (value: bigint, index: number, array: " ++ name ++ "<TArrayBuffer>) => boolean, thisArg?: any): boolean",
  " sort(compareFn?: (a: bigint, b: bigint) => number | bigint): this",
  " subarray(begin?: number, end?: number): " ++ name ++ "<TArrayBuffer>",
  " toLocaleString(locales?: string | string[], options?: Intl.NumberFormatOptions): string",
  " toString(): string",
  " valueOf(): " ++ name ++ "<TArrayBuffer>",
  " values(): ArrayIterator<bigint>",
  " [Symbol.iterator](): ArrayIterator<bigint>",
  " readonly [Symbol.toStringTag]: \"" ++ name ++ "\"",
  " [index: number]: bigint",
  "interface " ++ name ++ "Constructor",
  " readonly prototype: " ++ name ++ "<ArrayBufferLike>",
  " new (length?: number): " ++ name ++ "<ArrayBuffer>",
  " new (array: ArrayLike<bigint> | Iterable<bigint>): " ++ name ++ "<ArrayBuffer>",
  " new <TArrayBuffer extends ArrayBufferLike = ArrayBuffer>(buffer: TArrayBuffer, byteOffset?: number, length?: number): " ++ name ++ "<TArrayBuffer>",
  " new (buffer: ArrayBuffer, byteOffset?: number, length?: number): " ++ name ++ "<ArrayBuffer>",
  " new (array: ArrayLike<bigint> | ArrayBuffer): " ++ name ++ "<ArrayBuffer>",
  " readonly BYTES_PER_ELEMENT: number",
  " of(...items: bigint[]): " ++ name ++ "<ArrayBuffer>",
  " from(arrayLike: ArrayLike<bigint>): " ++ name ++ "<ArrayBuffer>",
  " from<U>(arrayLike: ArrayLike<U>, mapfn: (v: U, k: number) => bigint, thisArg?: any): " ++ name ++ "<ArrayBuffer>",
  "declare var " ++ name ++ ": " ++ name ++ "Constructor"]

end TypeLineage.Library
