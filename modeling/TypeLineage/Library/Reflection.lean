import TypeLineage.Library.Layout

/-! # Promises, symbols, reflection and decorators

    Making promises, standing in for objects, looking into them, and symbols
    with those that the language itself knows; and what a decorator is told,
    with the names for types that are made of others. -/

namespace TypeLineage.Library

/-- What is declared of making promises. -/
def promiseLines : List String := [
  "interface PromiseConstructor",
  " readonly prototype: Promise<any>",
  " new <T>(executor: (resolve: (value: T | PromiseLike<T>) => void, reject: (reason?: any) => void) => void): Promise<T>",
  " all<T extends readonly unknown[] | []>(values: T): Promise<\x7b -readonly [P in keyof T]: Awaited<T[P]> \x7d>",
  " race<T extends readonly unknown[] | []>(values: T): Promise<Awaited<T[number]>>",
  " reject<T = never>(reason?: any): Promise<T>",
  " resolve(): Promise<void>",
  " resolve<T>(value: T): Promise<Awaited<T>>",
  " resolve<T>(value: T | PromiseLike<T>): Promise<Awaited<T>>",
  "declare var Promise: PromiseConstructor"]

/-- What is declared of standing in for objects. -/
def proxyLines : List String := [
  "interface ProxyHandler<T extends object>",
  " apply?(target: T, thisArg: any, argArray: any[]): any",
  " construct?(target: T, argArray: any[], newTarget: Function): object",
  " defineProperty?(target: T, property: string | symbol, attributes: PropertyDescriptor): boolean",
  " deleteProperty?(target: T, p: string | symbol): boolean",
  " get?(target: T, p: string | symbol, receiver: any): any",
  " getOwnPropertyDescriptor?(target: T, p: string | symbol): PropertyDescriptor | undefined",
  " getPrototypeOf?(target: T): object | null",
  " has?(target: T, p: string | symbol): boolean",
  " isExtensible?(target: T): boolean",
  " ownKeys?(target: T): ArrayLike<string | symbol>",
  " preventExtensions?(target: T): boolean",
  " set?(target: T, p: string | symbol, newValue: any, receiver: any): boolean",
  " setPrototypeOf?(target: T, v: object | null): boolean",
  "interface ProxyConstructor",
  " revocable<T extends object>(target: T, handler: ProxyHandler<T>): \x7b proxy: T; revoke: () => void \x7d",
  " new <T extends object>(target: T, handler: ProxyHandler<T>): T",
  "declare var Proxy: ProxyConstructor"]

/-- What is declared of looking into objects. -/
def reflectLines : List String := [
  "declare namespace Reflect",
  " function apply<T, A extends readonly any[], R>(target: (this: T, ...args: A) => R, thisArgument: T, argumentsList: Readonly<A>): R",
  " function apply(target: Function, thisArgument: any, argumentsList: ArrayLike<any>): any",
  " function construct<A extends readonly any[], R>(target: new (...args: A) => R, argumentsList: Readonly<A>, newTarget?: new (...args: any) => any): R",
  " function construct(target: Function, argumentsList: ArrayLike<any>, newTarget?: Function): any",
  " function defineProperty(target: object, propertyKey: PropertyKey, attributes: PropertyDescriptor & ThisType<any>): boolean",
  " function deleteProperty(target: object, propertyKey: PropertyKey): boolean",
  " function get<T extends object, P extends PropertyKey>(target: T, propertyKey: P, receiver?: unknown): P extends keyof T ? T[P] : any",
  " function getOwnPropertyDescriptor<T extends object, P extends PropertyKey>(target: T, propertyKey: P): TypedPropertyDescriptor<P extends keyof T ? T[P] : any> | undefined",
  " function getPrototypeOf(target: object): object | null",
  " function has(target: object, propertyKey: PropertyKey): boolean",
  " function isExtensible(target: object): boolean",
  " function ownKeys(target: object): (string | symbol)[]",
  " function preventExtensions(target: object): boolean",
  " function set<T extends object, P extends PropertyKey>(target: T, propertyKey: P, value: P extends keyof T ? T[P] : any, receiver?: any): boolean",
  " function set(target: object, propertyKey: PropertyKey, value: any, receiver?: any): boolean",
  " function setPrototypeOf(target: object, proto: object | null): boolean"]

/-- What is declared of symbols. -/
def symbolLines : List String := [
  "interface SymbolConstructor",
  " readonly prototype: Symbol",
  " (description?: string | number): symbol",
  " for(key: string): symbol",
  " keyFor(sym: symbol): string | undefined",
  "declare var Symbol: SymbolConstructor"]

/-- What is declared of the symbols that the language knows. -/
def wellKnownLines : List String := [
  "interface SymbolConstructor",
  " readonly hasInstance: unique symbol",
  " readonly isConcatSpreadable: unique symbol",
  " readonly match: unique symbol",
  " readonly replace: unique symbol",
  " readonly search: unique symbol",
  " readonly species: unique symbol",
  " readonly split: unique symbol",
  " readonly toPrimitive: unique symbol",
  " readonly toStringTag: unique symbol",
  " readonly unscopables: unique symbol",
  "interface Symbol",
  " [Symbol.toPrimitive](hint: string): symbol",
  " readonly [Symbol.toStringTag]: string",
  "interface Array<T>",
  " readonly [Symbol.unscopables]: \x7b [K in keyof any[]]?: boolean \x7d",
  "interface ReadonlyArray<T>",
  " readonly [Symbol.unscopables]: \x7b [K in keyof readonly any[]]?: boolean \x7d",
  "interface Date",
  " [Symbol.toPrimitive](hint: \"default\"): string",
  " [Symbol.toPrimitive](hint: \"string\"): string",
  " [Symbol.toPrimitive](hint: \"number\"): number",
  " [Symbol.toPrimitive](hint: string): string | number",
  "interface Map<K, V>",
  " readonly [Symbol.toStringTag]: string",
  "interface WeakMap<K extends WeakKey, V>",
  " readonly [Symbol.toStringTag]: string",
  "interface Set<T>",
  " readonly [Symbol.toStringTag]: string",
  "interface WeakSet<T extends WeakKey>",
  " readonly [Symbol.toStringTag]: string",
  "interface JSON",
  " readonly [Symbol.toStringTag]: string",
  "interface Function",
  " [Symbol.hasInstance](value: any): boolean",
  "interface GeneratorFunction",
  " readonly [Symbol.toStringTag]: string",
  "interface Math",
  " readonly [Symbol.toStringTag]: string",
  "interface Promise<T>",
  " readonly [Symbol.toStringTag]: string",
  "interface PromiseConstructor",
  " readonly [Symbol.species]: PromiseConstructor",
  "interface RegExp",
  " [Symbol.match](string: string): RegExpMatchArray | null",
  " [Symbol.replace](string: string, replaceValue: string): string",
  " [Symbol.replace](string: string, replacer: (substring: string, ...args: any[]) => string): string",
  " [Symbol.search](string: string): number",
  " [Symbol.split](string: string, limit?: number): string[]",
  "interface RegExpConstructor",
  " readonly [Symbol.species]: RegExpConstructor",
  "interface String",
  " match(matcher: \x7b [Symbol.match](string: string): RegExpMatchArray | null \x7d): RegExpMatchArray | null",
  " replace(searchValue: \x7b [Symbol.replace](string: string, replaceValue: string): string \x7d, replaceValue: string): string",
  " replace(searchValue: \x7b [Symbol.replace](string: string, replacer: (substring: string, ...args: any[]) => string): string \x7d, replacer: (substring: string, ...args: any[]) => string): string",
  " search(searcher: \x7b [Symbol.search](string: string): number \x7d): number",
  " split(splitter: \x7b [Symbol.split](string: string, limit?: number): string[] \x7d, limit?: number): string[]",
  "interface ArrayBuffer",
  " readonly [Symbol.toStringTag]: \"ArrayBuffer\"",
  "interface DataView<TArrayBuffer extends ArrayBufferLike>",
  " readonly [Symbol.toStringTag]: string",
  "interface ArrayConstructor",
  " readonly [Symbol.species]: ArrayConstructor",
  "interface MapConstructor",
  " readonly [Symbol.species]: MapConstructor",
  "interface SetConstructor",
  " readonly [Symbol.species]: SetConstructor"]

/-! ## Decorators and types made of types

    What a decorator is told of the class, or of the member, that it stands
    before; and promises, and the names for types that are made of others. -/

/-- What is declared of promises and of types made of types. -/
def derivedLines : List String := [
  "declare type PromiseConstructorLike = new <T>(executor: (resolve: (value: T | PromiseLike<T>) => void, reject: (reason?: any) => void) => void) => PromiseLike<T>",
  "interface PromiseLike<T>",
  " then<TResult1 = T, TResult2 = never>(onfulfilled?: ((value: T) => TResult1 | PromiseLike<TResult1>) | null | undefined, onrejected?: ((reason: any) => TResult2 | PromiseLike<TResult2>) | null | undefined): PromiseLike<TResult1 | TResult2>",
  "interface Promise<T>",
  " then<TResult1 = T, TResult2 = never>(onfulfilled?: ((value: T) => TResult1 | PromiseLike<TResult1>) | null | undefined, onrejected?: ((reason: any) => TResult2 | PromiseLike<TResult2>) | null | undefined): Promise<TResult1 | TResult2>",
  " catch<TResult = never>(onrejected?: ((reason: any) => TResult | PromiseLike<TResult>) | null | undefined): Promise<T | TResult>",
  "type Awaited<T> = T extends null | undefined ? T : T extends object & \x7b then(onfulfilled: infer F, ...args: infer _): any \x7d ? F extends ((value: infer V, ...args: infer _) => any) ? Awaited<V> : never : T",
  "type Partial<T> = \x7b [P in keyof T]?: T[P] \x7d",
  "type Required<T> = \x7b [P in keyof T]-?: T[P] \x7d",
  "type Readonly<T> = \x7b readonly [P in keyof T]: T[P] \x7d",
  "type Pick<T, K extends keyof T> = \x7b [P in K]: T[P] \x7d",
  "type Record<K extends keyof any, T> = \x7b [P in K]: T \x7d",
  "type Exclude<T, U> = T extends U ? never : T",
  "type Extract<T, U> = T extends U ? T : never",
  "type Omit<T, K extends keyof any> = Pick<T, Exclude<keyof T, K>>",
  "type NonNullable<T> = T & \x7b\x7d",
  "type Parameters<T extends (...args: any) => any> = T extends (...args: infer P) => any ? P : never",
  "type ConstructorParameters<T extends abstract new (...args: any) => any> = T extends abstract new (...args: infer P) => any ? P : never",
  "type ReturnType<T extends (...args: any) => any> = T extends (...args: any) => infer R ? R : any",
  "type InstanceType<T extends abstract new (...args: any) => any> = T extends abstract new (...args: any) => infer R ? R : any",
  "type Uppercase<S extends string> = intrinsic",
  "type Lowercase<S extends string> = intrinsic",
  "type Capitalize<S extends string> = intrinsic",
  "type Uncapitalize<S extends string> = intrinsic",
  "type NoInfer<T> = intrinsic",
  "interface ThisType<T>",
  "interface WeakKeyTypes",
  " object: object",
  "type WeakKey = WeakKeyTypes[keyof WeakKeyTypes]"]

/-- What is declared of decorators. -/
def decoratorLines : List String := [
  "type ClassMemberDecoratorContext = ClassMethodDecoratorContext | ClassGetterDecoratorContext | ClassSetterDecoratorContext | ClassFieldDecoratorContext | ClassAccessorDecoratorContext",
  "type DecoratorContext = ClassDecoratorContext | ClassMemberDecoratorContext",
  "type DecoratorMetadataObject = Record<PropertyKey, unknown> & object",
  "type DecoratorMetadata = typeof globalThis extends \x7b Symbol: \x7b readonly metadata: symbol \x7d \x7d ? DecoratorMetadataObject : DecoratorMetadataObject | undefined",
  "interface ClassDecoratorContext<Class extends abstract new (...args: any) => any = abstract new (...args: any) => any>",
  " readonly kind: \"class\"",
  " readonly name: string | undefined",
  " addInitializer(initializer: (this: Class) => void): void",
  " readonly metadata: DecoratorMetadata",
  "interface ClassMethodDecoratorContext<This = unknown, Value extends (this: This, ...args: any) => any = (this: This, ...args: any) => any>",
  " readonly kind: \"method\"",
  " readonly name: string | symbol",
  " readonly static: boolean",
  " readonly private: boolean",
  " readonly access: \x7b has(object: This): boolean; get(object: This): Value \x7d",
  " addInitializer(initializer: (this: This) => void): void",
  " readonly metadata: DecoratorMetadata",
  "interface ClassGetterDecoratorContext<This = unknown, Value = unknown>",
  " readonly kind: \"getter\"",
  " readonly name: string | symbol",
  " readonly static: boolean",
  " readonly private: boolean",
  " readonly access: \x7b has(object: This): boolean; get(object: This): Value \x7d",
  " addInitializer(initializer: (this: This) => void): void",
  " readonly metadata: DecoratorMetadata",
  "interface ClassSetterDecoratorContext<This = unknown, Value = unknown>",
  " readonly kind: \"setter\"",
  " readonly name: string | symbol",
  " readonly static: boolean",
  " readonly private: boolean",
  " readonly access: \x7b has(object: This): boolean; set(object: This, value: Value): void \x7d",
  " addInitializer(initializer: (this: This) => void): void",
  " readonly metadata: DecoratorMetadata",
  "interface ClassAccessorDecoratorContext<This = unknown, Value = unknown>",
  " readonly kind: \"accessor\"",
  " readonly name: string | symbol",
  " readonly static: boolean",
  " readonly private: boolean",
  " readonly access: \x7b has(object: This): boolean; get(object: This): Value; set(object: This, value: Value): void \x7d",
  " addInitializer(initializer: (this: This) => void): void",
  " readonly metadata: DecoratorMetadata",
  "interface ClassAccessorDecoratorTarget<This, Value>",
  " get(this: This): Value",
  " set(this: This, value: Value): void",
  "interface ClassAccessorDecoratorResult<This, Value>",
  " get?(this: This): Value",
  " set?(this: This, value: Value): void",
  " init?(this: This, value: Value): Value",
  "interface ClassFieldDecoratorContext<This = unknown, Value = unknown>",
  " readonly kind: \"field\"",
  " readonly name: string | symbol",
  " readonly static: boolean",
  " readonly private: boolean",
  " readonly access: \x7b has(object: This): boolean; get(object: This): Value; set(object: This, value: Value): void \x7d",
  " addInitializer(initializer: (this: This) => void): void",
  " readonly metadata: DecoratorMetadata"]

/-- What was declared of decorators before. -/
def formerDecoratorLines : List String := [
  "declare type ClassDecorator = <TFunction extends Function>(target: TFunction) => TFunction | void",
  "declare type PropertyDecorator = (target: Object, propertyKey: string | symbol) => void",
  "declare type MethodDecorator = <T>(target: Object, propertyKey: string | symbol, descriptor: TypedPropertyDescriptor<T>) => TypedPropertyDescriptor<T> | void",
  "declare type ParameterDecorator = (target: Object, propertyKey: string | symbol | undefined, parameterIndex: number) => void"]

end TypeLineage.Library
