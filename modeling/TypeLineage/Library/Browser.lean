import TypeLineage.Library.Layout

/-! # Browsers

    What is there where programs run in browsers: a console, a window and the
    document in it. -/

namespace TypeLineage.Library

/-- What is declared of the console and of timers. -/
def consoleLines : List String := [
  "interface Console",
  " assert(condition?: boolean, ...data: any[]): void",
  " clear(): void",
  " count(label?: string): void",
  " debug(...data: any[]): void",
  " dir(item?: any, options?: any): void",
  " error(...data: any[]): void",
  " group(...data: any[]): void",
  " groupEnd(): void",
  " info(...data: any[]): void",
  " log(...data: any[]): void",
  " table(tabularData?: any, properties?: string[]): void",
  " time(label?: string): void",
  " timeEnd(label?: string): void",
  " trace(...data: any[]): void",
  " warn(...data: any[]): void",
  "declare var console: Console",
  "type TimerHandler = string | Function",
  "declare function setTimeout(handler: TimerHandler, timeout?: number, ...arguments: any[]): number",
  "declare function clearTimeout(id: number | undefined): void",
  "declare function setInterval(handler: TimerHandler, timeout?: number, ...arguments: any[]): number",
  "declare function clearInterval(id: number | undefined): void",
  "declare function queueMicrotask(callback: VoidFunction): void",
  "interface VoidFunction",
  " (): void"]

/-- What is declared of what a window keeps, and of where it is. -/
def storageLines : List String := [
  "interface Storage",
  " readonly length: number",
  " clear(): void",
  " getItem(key: string): string | null",
  " key(index: number): string | null",
  " removeItem(key: string): void",
  " setItem(key: string, value: string): void",
  " [name: string]: any",
  "declare var Storage: \x7b prototype: Storage; new (): Storage \x7d",
  "interface DOMStringList",
  " readonly length: number",
  " contains(string: string): boolean",
  " item(index: number): string | null",
  " [index: number]: string",
  "interface Location",
  " readonly ancestorOrigins: DOMStringList",
  " hash: string",
  " host: string",
  " hostname: string",
  " href: string",
  " toString(): string",
  " readonly origin: string",
  " pathname: string",
  " port: string",
  " protocol: string",
  " search: string",
  " assign(url: string | URL): void",
  " reload(): void",
  " replace(url: string | URL): void",
  "declare var Location: \x7b prototype: Location; new (): Location \x7d",
  "type ScrollRestoration = \"auto\" | \"manual\"",
  "interface History",
  " readonly length: number",
  " scrollRestoration: ScrollRestoration",
  " readonly state: any",
  " back(): void",
  " forward(): void",
  " go(delta?: number): void",
  " pushState(data: any, unused: string, url?: string | URL | null): void",
  " replaceState(data: any, unused: string, url?: string | URL | null): void",
  "declare var History: \x7b prototype: History; new (): History \x7d"]

/-- What is declared of the machine around a window. -/
def navigatorLines : List String := [
  "interface Clipboard extends EventTarget",
  " readText(): Promise<string>",
  " writeText(data: string): Promise<void>",
  "interface GeolocationCoordinates",
  " readonly accuracy: number",
  " readonly altitude: number | null",
  " readonly altitudeAccuracy: number | null",
  " readonly heading: number | null",
  " readonly latitude: number",
  " readonly longitude: number",
  " readonly speed: number | null",
  "interface GeolocationPosition",
  " readonly coords: GeolocationCoordinates",
  " readonly timestamp: EpochTimeStamp",
  "type EpochTimeStamp = number",
  "interface GeolocationPositionError",
  " readonly code: number",
  " readonly message: string",
  "interface PositionCallback",
  " (position: GeolocationPosition): void",
  "interface PositionErrorCallback",
  " (positionError: GeolocationPositionError): void",
  "interface PositionOptions",
  " enableHighAccuracy?: boolean",
  " maximumAge?: number",
  " timeout?: number",
  "interface Geolocation",
  " clearWatch(watchId: number): void",
  " getCurrentPosition(successCallback: PositionCallback, errorCallback?: PositionErrorCallback | null, options?: PositionOptions): void",
  " watchPosition(successCallback: PositionCallback, errorCallback?: PositionErrorCallback | null, options?: PositionOptions): number",
  "interface MediaDevices extends EventTarget",
  " getUserMedia(constraints?: any): Promise<MediaStream>",
  "interface MediaStream extends EventTarget",
  " readonly active: boolean",
  " readonly id: string",
  "interface StorageEstimate",
  " quota?: number",
  " usage?: number",
  "interface StorageManager",
  " estimate(): Promise<StorageEstimate>",
  " persist(): Promise<boolean>",
  " persisted(): Promise<boolean>",
  "interface ServiceWorkerContainer extends EventTarget",
  " readonly controller: ServiceWorker | null",
  "interface NavigatorLanguage",
  " readonly language: string",
  " readonly languages: ReadonlyArray<string>",
  "interface NavigatorID",
  " readonly appCodeName: string",
  " readonly appName: string",
  " readonly appVersion: string",
  " readonly platform: string",
  " readonly product: string",
  " readonly productSub: string",
  " readonly userAgent: string",
  " readonly vendor: string",
  " readonly vendorSub: string",
  "interface NavigatorOnLine",
  " readonly onLine: boolean",
  "interface NavigatorConcurrentHardware",
  " readonly hardwareConcurrency: number",
  "interface Navigator extends NavigatorConcurrentHardware, NavigatorID, NavigatorLanguage, NavigatorOnLine",
  " readonly clipboard: Clipboard",
  " readonly cookieEnabled: boolean",
  " readonly doNotTrack: string | null",
  " readonly geolocation: Geolocation",
  " readonly maxTouchPoints: number",
  " readonly mediaDevices: MediaDevices",
  " readonly pdfViewerEnabled: boolean",
  " readonly serviceWorker: ServiceWorkerContainer",
  " readonly storage: StorageManager",
  " readonly webdriver: boolean",
  " canShare(data?: ShareData): boolean",
  " sendBeacon(url: string | URL, data?: BodyInit | null): boolean",
  " share(data?: ShareData): Promise<void>",
  " vibrate(pattern: number | number[]): boolean",
  "declare var Navigator: \x7b prototype: Navigator; new (): Navigator \x7d",
  "interface ShareData",
  " files?: File[]",
  " text?: string",
  " title?: string",
  " url?: string",
  "interface ScreenOrientation extends EventTarget",
  " readonly angle: number",
  " readonly type: \"landscape-primary\" | \"landscape-secondary\" | \"portrait-primary\" | \"portrait-secondary\"",
  "interface Screen",
  " readonly availHeight: number",
  " readonly availWidth: number",
  " readonly colorDepth: number",
  " readonly height: number",
  " readonly orientation: ScreenOrientation",
  " readonly pixelDepth: number",
  " readonly width: number",
  "interface PerformanceEntry",
  " readonly duration: DOMHighResTimeStamp",
  " readonly entryType: string",
  " readonly name: string",
  " readonly startTime: DOMHighResTimeStamp",
  " toJSON(): any",
  "interface PerformanceMark extends PerformanceEntry",
  " readonly detail: any",
  "interface PerformanceMeasure extends PerformanceEntry",
  " readonly detail: any",
  "type PerformanceEntryList = PerformanceEntry[]",
  "interface Performance extends EventTarget",
  " readonly timeOrigin: DOMHighResTimeStamp",
  " clearMarks(markName?: string): void",
  " clearMeasures(measureName?: string): void",
  " getEntries(): PerformanceEntryList",
  " getEntriesByName(name: string, type?: string): PerformanceEntryList",
  " getEntriesByType(type: string): PerformanceEntryList",
  " mark(markName: string, markOptions?: any): PerformanceMark",
  " measure(measureName: string, startOrMeasureOptions?: string | any, endMark?: string): PerformanceMeasure",
  " now(): DOMHighResTimeStamp",
  " toJSON(): any",
  "declare var Performance: \x7b prototype: Performance; new (): Performance \x7d",
  "interface MediaQueryListEvent extends Event",
  " readonly matches: boolean",
  " readonly media: string",
  "interface MediaQueryList extends EventTarget",
  " readonly matches: boolean",
  " readonly media: string",
  " onchange: ((this: MediaQueryList, ev: MediaQueryListEvent) => any) | null"]

/-- What is declared of documents. -/
def documentLines : List String := [
  "interface Selection",
  " readonly anchorNode: Node | null",
  " readonly anchorOffset: number",
  " readonly focusNode: Node | null",
  " readonly focusOffset: number",
  " readonly isCollapsed: boolean",
  " readonly rangeCount: number",
  " readonly type: string",
  " addRange(range: Range): void",
  " collapse(node: Node | null, offset?: number): void",
  " getRangeAt(index: number): Range",
  " removeAllRanges(): void",
  " selectAllChildren(node: Node): void",
  " toString(): string",
  "interface AbstractRange",
  " readonly collapsed: boolean",
  " readonly endContainer: Node",
  " readonly endOffset: number",
  " readonly startContainer: Node",
  " readonly startOffset: number",
  "interface Range extends AbstractRange",
  " readonly commonAncestorContainer: Node",
  " cloneContents(): DocumentFragment",
  " cloneRange(): Range",
  " collapse(toStart?: boolean): void",
  " deleteContents(): void",
  " extractContents(): DocumentFragment",
  " getBoundingClientRect(): DOMRect",
  " insertNode(node: Node): void",
  " selectNode(node: Node): void",
  " setEnd(node: Node, offset: number): void",
  " setStart(node: Node, offset: number): void",
  " toString(): string",
  "declare var Range: \x7b prototype: Range; new (): Range \x7d",
  "type DocumentReadyState = \"complete\" | \"interactive\" | \"loading\"",
  "type DocumentVisibilityState = \"hidden\" | \"visible\"",
  "interface ElementCreationOptions",
  " is?: string",
  "interface DocumentEventMap extends GlobalEventHandlersEventMap",
  " \"DOMContentLoaded\": Event",
  " \"fullscreenchange\": Event",
  " \"fullscreenerror\": Event",
  " \"pointerlockchange\": Event",
  " \"pointerlockerror\": Event",
  " \"readystatechange\": Event",
  " \"visibilitychange\": Event",
  "interface Document extends Node, DocumentOrShadowRoot, GlobalEventHandlers, NonElementParentNode, ParentNode",
  " readonly URL: string",
  " body: HTMLElement",
  " readonly characterSet: string",
  " readonly compatMode: string",
  " readonly contentType: string",
  " cookie: string",
  " readonly currentScript: HTMLOrSVGScriptElement | null",
  " readonly defaultView: (WindowProxy & typeof globalThis) | null",
  " designMode: string",
  " dir: string",
  " readonly doctype: DocumentType | null",
  " readonly documentElement: HTMLElement",
  " readonly documentURI: string",
  " domain: string",
  " readonly forms: HTMLCollectionOf<HTMLFormElement>",
  " readonly fullscreenEnabled: boolean",
  " readonly head: HTMLHeadElement",
  " readonly hidden: boolean",
  " readonly images: HTMLCollectionOf<HTMLImageElement>",
  " readonly lastModified: string",
  " readonly links: HTMLCollectionOf<HTMLAnchorElement | HTMLAreaElement>",
  " get location(): Location",
  " set location(href: string)",
  " readonly ownerDocument: null",
  " readonly readyState: DocumentReadyState",
  " readonly referrer: string",
  " readonly scripts: HTMLCollectionOf<HTMLScriptElement>",
  " readonly scrollingElement: Element | null",
  " title: string",
  " readonly visibilityState: DocumentVisibilityState",
  " adoptNode<T extends Node>(node: T): T",
  " close(): void",
  " createAttribute(localName: string): Attr",
  " createComment(data: string): Comment",
  " createDocumentFragment(): DocumentFragment",
  " createElement<K extends keyof HTMLElementTagNameMap>(tagName: K, options?: ElementCreationOptions): HTMLElementTagNameMap[K]",
  " createElement<K extends keyof HTMLElementDeprecatedTagNameMap>(tagName: K, options?: ElementCreationOptions): HTMLElementDeprecatedTagNameMap[K]",
  " createElement(tagName: string, options?: ElementCreationOptions): HTMLElement",
  " createElementNS(namespaceURI: \"http://www.w3.org/1999/xhtml\", qualifiedName: string): HTMLElement",
  " createElementNS(namespace: string | null, qualifiedName: string, options?: string | ElementCreationOptions): Element",
  " createEvent(eventInterface: string): Event",
  " createRange(): Range",
  " createTextNode(data: string): Text",
  " execCommand(commandId: string, showUI?: boolean, value?: string): boolean",
  " exitFullscreen(): Promise<void>",
  " getElementById(elementId: string): HTMLElement | null",
  " getElementsByClassName(classNames: string): HTMLCollectionOf<Element>",
  " getElementsByName(elementName: string): NodeListOf<HTMLElement>",
  " getElementsByTagName<K extends keyof HTMLElementTagNameMap>(qualifiedName: K): HTMLCollectionOf<HTMLElementTagNameMap[K]>",
  " getElementsByTagName<K extends keyof SVGElementTagNameMap>(qualifiedName: K): HTMLCollectionOf<SVGElementTagNameMap[K]>",
  " getElementsByTagName(qualifiedName: string): HTMLCollectionOf<Element>",
  " getSelection(): Selection | null",
  " hasFocus(): boolean",
  " importNode<T extends Node>(node: T, options?: boolean | any): T",
  " open(unused1?: string, unused2?: string): Document",
  " open(url: string | URL, name: string, features: string): WindowProxy | null",
  " write(...text: string[]): void",
  " writeln(...text: string[]): void",
  " get textContent(): null",
  " addEventListener<K extends keyof DocumentEventMap>(type: K, listener: (this: Document, ev: DocumentEventMap[K]) => any, options?: boolean | AddEventListenerOptions): void",
  " addEventListener(type: string, listener: EventListenerOrEventListenerObject, options?: boolean | AddEventListenerOptions): void",
  " removeEventListener<K extends keyof DocumentEventMap>(type: K, listener: (this: Document, ev: DocumentEventMap[K]) => any, options?: boolean | EventListenerOptions): void",
  " removeEventListener(type: string, listener: EventListenerOrEventListenerObject, options?: boolean | EventListenerOptions): void",
  "declare var Document: \x7b prototype: Document; new (): Document \x7d"]

/-- What is declared of those who watch documents. -/
def observerLines : List String := [
  "type HTMLOrSVGScriptElement = HTMLScriptElement | SVGElement",
  "interface XMLDocument extends Document",
  "interface DOMParser",
  " parseFromString(string: string, type: DOMParserSupportedType): Document",
  "type DOMParserSupportedType = \"application/xhtml+xml\" | \"application/xml\" | \"image/svg+xml\" | \"text/html\" | \"text/xml\"",
  "declare var DOMParser: \x7b prototype: DOMParser; new (): DOMParser \x7d",
  "interface MutationRecord",
  " readonly addedNodes: NodeList",
  " readonly attributeName: string | null",
  " readonly nextSibling: Node | null",
  " readonly oldValue: string | null",
  " readonly previousSibling: Node | null",
  " readonly removedNodes: NodeList",
  " readonly target: Node",
  " readonly type: \"attributes\" | \"characterData\" | \"childList\"",
  "interface MutationCallback",
  " (mutations: MutationRecord[], observer: MutationObserver): void",
  "interface MutationObserverInit",
  " attributes?: boolean",
  " characterData?: boolean",
  " childList?: boolean",
  " subtree?: boolean",
  "interface MutationObserver",
  " disconnect(): void",
  " observe(target: Node, options?: MutationObserverInit): void",
  " takeRecords(): MutationRecord[]",
  "declare var MutationObserver: \x7b prototype: MutationObserver; new (callback: MutationCallback): MutationObserver \x7d",
  "interface IntersectionObserverEntry",
  " readonly boundingClientRect: DOMRectReadOnly",
  " readonly intersectionRatio: number",
  " readonly isIntersecting: boolean",
  " readonly target: Element",
  " readonly time: DOMHighResTimeStamp",
  "interface IntersectionObserverCallback",
  " (entries: IntersectionObserverEntry[], observer: IntersectionObserver): void",
  "interface IntersectionObserverInit",
  " root?: Element | Document | null",
  " rootMargin?: string",
  " threshold?: number | number[]",
  "interface IntersectionObserver",
  " readonly root: Element | Document | null",
  " readonly rootMargin: string",
  " readonly thresholds: ReadonlyArray<number>",
  " disconnect(): void",
  " observe(target: Element): void",
  " takeRecords(): IntersectionObserverEntry[]",
  " unobserve(target: Element): void",
  "declare var IntersectionObserver: \x7b prototype: IntersectionObserver; new (callback: IntersectionObserverCallback, options?: IntersectionObserverInit): IntersectionObserver \x7d",
  "interface ResizeObserverEntry",
  " readonly contentRect: DOMRectReadOnly",
  " readonly target: Element",
  "interface ResizeObserverCallback",
  " (entries: ResizeObserverEntry[], observer: ResizeObserver): void",
  "interface ResizeObserver",
  " disconnect(): void",
  " observe(target: Element, options?: any): void",
  " unobserve(target: Element): void",
  "declare var ResizeObserver: \x7b prototype: ResizeObserver; new (callback: ResizeObserverCallback): ResizeObserver \x7d",
  "interface CustomElementConstructor",
  " new (...params: any[]): HTMLElement",
  "interface CustomElementRegistry",
  " define(name: string, constructor: CustomElementConstructor, options?: any): void",
  " get(name: string): CustomElementConstructor | undefined",
  " getName(constructor: CustomElementConstructor): string | null",
  " upgrade(root: Node): void",
  " whenDefined(name: string): Promise<CustomElementConstructor>",
  "interface FrameRequestCallback",
  " (time: DOMHighResTimeStamp): void",
  "interface IdleDeadline",
  " readonly didTimeout: boolean",
  " timeRemaining(): DOMHighResTimeStamp",
  "interface IdleRequestCallback",
  " (deadline: IdleDeadline): void",
  "interface IdleRequestOptions",
  " timeout?: number"]

/-- What is declared of windows. -/
def windowLines : List String := [
  "interface AnimationFrameProvider",
  " cancelAnimationFrame(handle: number): void",
  " requestAnimationFrame(callback: FrameRequestCallback): number",
  "interface WindowEventHandlersEventMap",
  " \"afterprint\": Event",
  " \"beforeprint\": Event",
  " \"beforeunload\": BeforeUnloadEvent",
  " \"gamepadconnected\": Event",
  " \"gamepaddisconnected\": Event",
  " \"hashchange\": HashChangeEvent",
  " \"languagechange\": Event",
  " \"message\": MessageEvent",
  " \"messageerror\": MessageEvent",
  " \"offline\": Event",
  " \"online\": Event",
  " \"pagehide\": PageTransitionEvent",
  " \"pageshow\": PageTransitionEvent",
  " \"popstate\": PopStateEvent",
  " \"rejectionhandled\": PromiseRejectionEvent",
  " \"storage\": StorageEvent",
  " \"unhandledrejection\": PromiseRejectionEvent",
  " \"unload\": Event",
  "interface WindowEventMap extends GlobalEventHandlersEventMap, WindowEventHandlersEventMap",
  " \"devicemotion\": Event",
  " \"deviceorientation\": Event",
  " \"deviceorientationabsolute\": Event",
  " \"gamepadconnected\": Event",
  " \"gamepaddisconnected\": Event",
  " \"orientationchange\": Event",
  "interface WindowEventHandlers",
  " onbeforeunload: ((this: WindowEventHandlers, ev: BeforeUnloadEvent) => any) | null",
  " onhashchange: ((this: WindowEventHandlers, ev: HashChangeEvent) => any) | null",
  " onmessage: ((this: WindowEventHandlers, ev: MessageEvent) => any) | null",
  " onoffline: ((this: WindowEventHandlers, ev: Event) => any) | null",
  " ononline: ((this: WindowEventHandlers, ev: Event) => any) | null",
  " onpopstate: ((this: WindowEventHandlers, ev: PopStateEvent) => any) | null",
  " onstorage: ((this: WindowEventHandlers, ev: StorageEvent) => any) | null",
  " onunhandledrejection: ((this: WindowEventHandlers, ev: PromiseRejectionEvent) => any) | null",
  "interface WindowLocalStorage",
  " readonly localStorage: Storage",
  "interface WindowSessionStorage",
  " readonly sessionStorage: Storage",
  "interface WindowOrWorkerGlobalScope",
  " readonly crossOriginIsolated: boolean",
  " readonly crypto: Crypto",
  " readonly isSecureContext: boolean",
  " readonly origin: string",
  " readonly performance: Performance",
  " atob(data: string): string",
  " btoa(data: string): string",
  " clearInterval(id: number | undefined): void",
  " clearTimeout(id: number | undefined): void",
  " fetch(input: RequestInfo | URL, init?: RequestInit): Promise<Response>",
  " queueMicrotask(callback: VoidFunction): void",
  " reportError(e: any): void",
  " setInterval(handler: TimerHandler, timeout?: number, ...arguments: any[]): number",
  " setTimeout(handler: TimerHandler, timeout?: number, ...arguments: any[]): number",
  " structuredClone<T = any>(value: T, options?: StructuredSerializeOptions): T",
  "interface Window extends EventTarget, AnimationFrameProvider, GlobalEventHandlers, WindowEventHandlers, WindowLocalStorage, WindowOrWorkerGlobalScope, WindowSessionStorage",
  " readonly clientInformation: Navigator",
  " readonly closed: boolean",
  " readonly customElements: CustomElementRegistry",
  " readonly devicePixelRatio: number",
  " readonly document: Document",
  " readonly event: Event | undefined",
  " readonly frameElement: Element | null",
  " readonly frames: WindowProxy",
  " readonly history: History",
  " readonly innerHeight: number",
  " readonly innerWidth: number",
  " readonly length: number",
  " get location(): Location",
  " set location(href: string)",
  " name: string",
  " readonly navigator: Navigator",
  " opener: any",
  " readonly outerHeight: number",
  " readonly outerWidth: number",
  " readonly pageXOffset: number",
  " readonly pageYOffset: number",
  " readonly parent: WindowProxy",
  " readonly screen: Screen",
  " readonly screenLeft: number",
  " readonly screenTop: number",
  " readonly screenX: number",
  " readonly screenY: number",
  " readonly scrollX: number",
  " readonly scrollY: number",
  " readonly self: Window & typeof globalThis",
  " status: string",
  " readonly top: WindowProxy | null",
  " readonly window: Window & typeof globalThis",
  " alert(message?: any): void",
  " blur(): void",
  " cancelIdleCallback(handle: number): void",
  " close(): void",
  " confirm(message?: string): boolean",
  " focus(): void",
  " getComputedStyle(elt: Element, pseudoElt?: string | null): CSSStyleDeclaration",
  " getSelection(): Selection | null",
  " matchMedia(query: string): MediaQueryList",
  " moveBy(x: number, y: number): void",
  " moveTo(x: number, y: number): void",
  " open(url?: string | URL, target?: string, features?: string): WindowProxy | null",
  " postMessage(message: any, targetOrigin: string, transfer?: Transferable[]): void",
  " print(): void",
  " prompt(message?: string, _default?: string): string | null",
  " requestIdleCallback(callback: IdleRequestCallback, options?: IdleRequestOptions): number",
  " resizeTo(width: number, height: number): void",
  " scroll(options?: ScrollToOptions): void",
  " scroll(x: number, y: number): void",
  " scrollBy(options?: ScrollToOptions): void",
  " scrollBy(x: number, y: number): void",
  " scrollTo(options?: ScrollToOptions): void",
  " scrollTo(x: number, y: number): void",
  " stop(): void",
  " addEventListener<K extends keyof WindowEventMap>(type: K, listener: (this: Window, ev: WindowEventMap[K]) => any, options?: boolean | AddEventListenerOptions): void",
  " addEventListener(type: string, listener: EventListenerOrEventListenerObject, options?: boolean | AddEventListenerOptions): void",
  " removeEventListener<K extends keyof WindowEventMap>(type: K, listener: (this: Window, ev: WindowEventMap[K]) => any, options?: boolean | EventListenerOptions): void",
  " removeEventListener(type: string, listener: EventListenerOrEventListenerObject, options?: boolean | EventListenerOptions): void",
  " [index: number]: Window",
  "declare var Window: \x7b prototype: Window; new (): Window \x7d"]

/-- What is declared of the values that a window gives to its programs. -/
def windowValueLines : List String := [
  "type WindowProxy = Window",
  "declare var Audio: \x7b new (src?: string): HTMLAudioElement \x7d",
  "declare var Image: \x7b new (width?: number, height?: number): HTMLImageElement \x7d",
  "declare var Option: \x7b new (text?: string, value?: string, defaultSelected?: boolean, selected?: boolean): HTMLOptionElement \x7d",
  "declare var clientInformation: Navigator",
  "declare var closed: boolean",
  "declare var customElements: CustomElementRegistry",
  "declare var devicePixelRatio: number",
  "declare var document: Document",
  "declare var event: Event | undefined",
  "declare var frameElement: Element | null",
  "declare var frames: WindowProxy",
  "declare var history: History",
  "declare var innerHeight: number",
  "declare var innerWidth: number",
  "declare var length: number",
  "declare var location: Location",
  "declare const name: void",
  "declare var navigator: Navigator",
  "declare var opener: any",
  "declare var outerHeight: number",
  "declare var outerWidth: number",
  "declare var pageXOffset: number",
  "declare var pageYOffset: number",
  "declare var parent: WindowProxy",
  "declare var screen: Screen",
  "declare var screenLeft: number",
  "declare var screenTop: number",
  "declare var screenX: number",
  "declare var screenY: number",
  "declare var scrollX: number",
  "declare var scrollY: number",
  "declare var self: Window & typeof globalThis",
  "declare var status: string",
  "declare var top: WindowProxy | null",
  "declare var window: Window & typeof globalThis",
  "declare var localStorage: Storage",
  "declare var sessionStorage: Storage",
  "declare var origin: string",
  "declare var performance: Performance",
  "declare var isSecureContext: boolean",
  "declare var crossOriginIsolated: boolean",
  "declare var onclick: ((this: Window, ev: PointerEvent) => any) | null",
  "declare var onerror: OnErrorEventHandler",
  "declare var onload: ((this: Window, ev: Event) => any) | null",
  "declare var onmessage: ((this: Window, ev: MessageEvent) => any) | null",
  "declare var onresize: ((this: Window, ev: UIEvent) => any) | null",
  "declare var onscroll: ((this: Window, ev: Event) => any) | null",
  "declare function alert(message?: any): void",
  "declare function blur(): void",
  "declare function cancelIdleCallback(handle: number): void",
  "declare function close(): void",
  "declare function confirm(message?: string): boolean",
  "declare function focus(): void",
  "declare function getComputedStyle(elt: Element, pseudoElt?: string | null): CSSStyleDeclaration",
  "declare function getSelection(): Selection | null",
  "declare function matchMedia(query: string): MediaQueryList",
  "declare function open(url?: string | URL, target?: string, features?: string): WindowProxy | null",
  "declare function postMessage(message: any, targetOrigin: string, transfer?: Transferable[]): void",
  "declare function print(): void",
  "declare function prompt(message?: string, _default?: string): string | null",
  "declare function requestIdleCallback(callback: IdleRequestCallback, options?: IdleRequestOptions): number",
  "declare function scroll(options?: ScrollToOptions): void",
  "declare function scroll(x: number, y: number): void",
  "declare function scrollBy(options?: ScrollToOptions): void",
  "declare function scrollBy(x: number, y: number): void",
  "declare function scrollTo(options?: ScrollToOptions): void",
  "declare function scrollTo(x: number, y: number): void",
  "declare function stop(): void",
  "declare function toString(): string",
  "declare function dispatchEvent(event: Event): boolean",
  "declare function cancelAnimationFrame(handle: number): void",
  "declare function requestAnimationFrame(callback: FrameRequestCallback): number",
  "declare function atob(data: string): string",
  "declare function btoa(data: string): string",
  "declare function reportError(e: any): void",
  "declare function structuredClone<T = any>(value: T, options?: StructuredSerializeOptions): T",
  "declare function addEventListener<K extends keyof WindowEventMap>(type: K, listener: (this: Window, ev: WindowEventMap[K]) => any, options?: boolean | AddEventListenerOptions): void",
  "declare function addEventListener(type: string, listener: EventListenerOrEventListenerObject, options?: boolean | AddEventListenerOptions): void",
  "declare function removeEventListener<K extends keyof WindowEventMap>(type: K, listener: (this: Window, ev: WindowEventMap[K]) => any, options?: boolean | EventListenerOptions): void",
  "declare function removeEventListener(type: string, listener: EventListenerOrEventListenerObject, options?: boolean | EventListenerOptions): void"]

end TypeLineage.Library
