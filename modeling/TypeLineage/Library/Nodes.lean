import TypeLineage.Library.Layout

/-! # Nodes

    The nodes that documents are made of. -/

namespace TypeLineage.Library

/-- What is declared of nodes and lists of them. -/
def nodeLines : List String := [
  "interface GetRootNodeOptions",
  " composed?: boolean",
  "interface Node extends EventTarget",
  " readonly baseURI: string",
  " readonly childNodes: NodeListOf<ChildNode>",
  " readonly firstChild: ChildNode | null",
  " readonly isConnected: boolean",
  " readonly lastChild: ChildNode | null",
  " readonly nextSibling: ChildNode | null",
  " readonly nodeName: string",
  " readonly nodeType: number",
  " nodeValue: string | null",
  " readonly ownerDocument: Document | null",
  " readonly parentElement: HTMLElement | null",
  " readonly parentNode: ParentNode | null",
  " readonly previousSibling: ChildNode | null",
  " textContent: string | null",
  " appendChild<T extends Node>(node: T): T",
  " cloneNode(subtree?: boolean): Node",
  " compareDocumentPosition(other: Node): number",
  " contains(other: Node | null): boolean",
  " getRootNode(options?: GetRootNodeOptions): Node",
  " hasChildNodes(): boolean",
  " insertBefore<T extends Node>(node: T, child: Node | null): T",
  " isDefaultNamespace(namespace: string | null): boolean",
  " isEqualNode(otherNode: Node | null): boolean",
  " isSameNode(otherNode: Node | null): boolean",
  " lookupNamespaceURI(prefix: string | null): string | null",
  " lookupPrefix(namespace: string | null): string | null",
  " normalize(): void",
  " removeChild<T extends Node>(child: T): T",
  " replaceChild<T extends Node>(node: Node, child: T): T",
  " readonly ELEMENT_NODE: 1",
  " readonly ATTRIBUTE_NODE: 2",
  " readonly TEXT_NODE: 3",
  " readonly CDATA_SECTION_NODE: 4",
  " readonly ENTITY_REFERENCE_NODE: 5",
  " readonly ENTITY_NODE: 6",
  " readonly PROCESSING_INSTRUCTION_NODE: 7",
  " readonly COMMENT_NODE: 8",
  " readonly DOCUMENT_NODE: 9",
  " readonly DOCUMENT_TYPE_NODE: 10",
  " readonly DOCUMENT_FRAGMENT_NODE: 11",
  " readonly NOTATION_NODE: 12",
  " readonly DOCUMENT_POSITION_DISCONNECTED: 1",
  " readonly DOCUMENT_POSITION_PRECEDING: 2",
  " readonly DOCUMENT_POSITION_FOLLOWING: 4",
  " readonly DOCUMENT_POSITION_CONTAINS: 8",
  " readonly DOCUMENT_POSITION_CONTAINED_BY: 16",
  " readonly DOCUMENT_POSITION_IMPLEMENTATION_SPECIFIC: 32",
  "declare var Node: \x7b prototype: Node; new (): Node; readonly ELEMENT_NODE: 1; readonly ATTRIBUTE_NODE: 2; readonly TEXT_NODE: 3; readonly COMMENT_NODE: 8; readonly DOCUMENT_NODE: 9 \x7d",
  "interface NodeList",
  " readonly length: number",
  " item(index: number): Node | null",
  " forEach(callbackfn: (value: Node, key: number, parent: NodeList) => void, thisArg?: any): void",
  " [index: number]: Node",
  "declare var NodeList: \x7b prototype: NodeList; new (): NodeList \x7d",
  "interface NodeListOf<TNode extends Node> extends NodeList",
  " item(index: number): TNode",
  " forEach(callbackfn: (value: TNode, key: number, parent: NodeListOf<TNode>) => void, thisArg?: any): void",
  " [index: number]: TNode",
  "interface HTMLCollectionBase",
  " readonly length: number",
  " item(index: number): Element | null",
  " [index: number]: Element",
  "interface HTMLCollection extends HTMLCollectionBase",
  " namedItem(name: string): Element | null",
  "declare var HTMLCollection: \x7b prototype: HTMLCollection; new (): HTMLCollection \x7d",
  "interface HTMLCollectionOf<T extends Element> extends HTMLCollectionBase",
  " item(index: number): T | null",
  " namedItem(name: string): T | null",
  " [index: number]: T",
  "interface HTMLFormControlsCollection extends HTMLCollectionBase",
  " namedItem(name: string): Element | RadioNodeList | null",
  "interface HTMLOptionsCollection extends HTMLCollectionOf<HTMLOptionElement>",
  " length: number",
  " selectedIndex: number",
  "interface RadioNodeList extends NodeListOf<HTMLInputElement>",
  " value: string",
  "interface ChildNode extends Node",
  " after(...nodes: (Node | string)[]): void",
  " before(...nodes: (Node | string)[]): void",
  " remove(): void",
  " replaceWith(...nodes: (Node | string)[]): void",
  "interface ParentNode extends Node",
  " readonly childElementCount: number",
  " readonly children: HTMLCollection",
  " readonly firstElementChild: Element | null",
  " readonly lastElementChild: Element | null",
  " append(...nodes: (Node | string)[]): void",
  " prepend(...nodes: (Node | string)[]): void",
  " querySelector<K extends keyof HTMLElementTagNameMap>(selectors: K): HTMLElementTagNameMap[K] | null",
  " querySelector<K extends keyof SVGElementTagNameMap>(selectors: K): SVGElementTagNameMap[K] | null",
  " querySelector<K extends keyof MathMLElementTagNameMap>(selectors: K): MathMLElementTagNameMap[K] | null",
  " querySelector<K extends keyof HTMLElementDeprecatedTagNameMap>(selectors: K): HTMLElementDeprecatedTagNameMap[K] | null",
  " querySelector<E extends Element = Element>(selectors: string): E | null",
  " querySelectorAll<K extends keyof HTMLElementTagNameMap>(selectors: K): NodeListOf<HTMLElementTagNameMap[K]>",
  " querySelectorAll<K extends keyof SVGElementTagNameMap>(selectors: K): NodeListOf<SVGElementTagNameMap[K]>",
  " querySelectorAll<K extends keyof MathMLElementTagNameMap>(selectors: K): NodeListOf<MathMLElementTagNameMap[K]>",
  " querySelectorAll<K extends keyof HTMLElementDeprecatedTagNameMap>(selectors: K): NodeListOf<HTMLElementDeprecatedTagNameMap[K]>",
  " querySelectorAll<E extends Element = Element>(selectors: string): NodeListOf<E>",
  " replaceChildren(...nodes: (Node | string)[]): void",
  "interface NonDocumentTypeChildNode",
  " readonly nextElementSibling: Element | null",
  " readonly previousElementSibling: Element | null",
  "interface NonElementParentNode",
  " getElementById(elementId: string): Element | null",
  "interface Slottable",
  " readonly assignedSlot: HTMLSlotElement | null",
  "interface ARIAMixin",
  " ariaBusy: string | null",
  " ariaChecked: string | null",
  " ariaDisabled: string | null",
  " ariaExpanded: string | null",
  " ariaHidden: string | null",
  " ariaLabel: string | null",
  " role: string | null"]

/-- What is declared of how nodes move and lie. -/
def boxLines : List String := [
  "interface Animatable",
  " animate(keyframes: Keyframe[] | PropertyIndexedKeyframes | null, options?: number | KeyframeAnimationOptions): Animation",
  " getAnimations(options?: GetAnimationsOptions): Animation[]",
  "interface Keyframe",
  " easing?: string",
  " offset?: number | null",
  " [property: string]: string | number | null | undefined",
  "interface PropertyIndexedKeyframes",
  " easing?: string | string[]",
  " offset?: number | (number | null)[]",
  " [property: string]: string | string[] | number | null | (number | null)[] | undefined",
  "interface KeyframeAnimationOptions",
  " id?: string",
  " delay?: number",
  " duration?: number | string",
  " easing?: string",
  " iterations?: number",
  "interface GetAnimationsOptions",
  " subtree?: boolean",
  "interface Animation extends EventTarget",
  " id: string",
  " onfinish: ((this: Animation, ev: Event) => any) | null",
  " readonly finished: Promise<Animation>",
  " readonly playState: \"finished\" | \"idle\" | \"paused\" | \"running\"",
  " cancel(): void",
  " finish(): void",
  " pause(): void",
  " play(): void",
  " reverse(): void",
  "interface InnerHTML",
  " innerHTML: string",
  "interface DOMRectReadOnly",
  " readonly bottom: number",
  " readonly height: number",
  " readonly left: number",
  " readonly right: number",
  " readonly top: number",
  " readonly width: number",
  " readonly x: number",
  " readonly y: number",
  " toJSON(): any",
  "interface DOMRect extends DOMRectReadOnly",
  " height: number",
  " width: number",
  " x: number",
  " y: number",
  "declare var DOMRect: \x7b prototype: DOMRect; new (x?: number, y?: number, width?: number, height?: number): DOMRect; fromRect(other?: DOMRectInit): DOMRect \x7d",
  "interface DOMRectInit",
  " height?: number",
  " width?: number",
  " x?: number",
  " y?: number",
  "interface DOMRectList",
  " readonly length: number",
  " item(index: number): DOMRect | null",
  " [index: number]: DOMRect",
  "interface DOMTokenList",
  " readonly length: number",
  " value: string",
  " toString(): string",
  " add(...tokens: string[]): void",
  " contains(token: string): boolean",
  " item(index: number): string | null",
  " remove(...tokens: string[]): void",
  " replace(token: string, newToken: string): boolean",
  " supports(token: string): boolean",
  " toggle(token: string, force?: boolean): boolean",
  " forEach(callbackfn: (value: string, key: number, parent: DOMTokenList) => void, thisArg?: any): void",
  " [index: number]: string",
  "interface DOMStringMap",
  " [name: string]: string | undefined",
  "interface Attr extends Node",
  " readonly localName: string",
  " readonly name: string",
  " readonly namespaceURI: string | null",
  " readonly ownerElement: Element | null",
  " readonly prefix: string | null",
  " value: string",
  "interface NamedNodeMap",
  " readonly length: number",
  " getNamedItem(qualifiedName: string): Attr | null",
  " item(index: number): Attr | null",
  " removeNamedItem(qualifiedName: string): Attr",
  " setNamedItem(attr: Attr): Attr | null",
  " [index: number]: Attr",
  "interface ScrollOptions",
  " behavior?: ScrollBehavior",
  "type ScrollBehavior = \"auto\" | \"instant\" | \"smooth\"",
  "type ScrollLogicalPosition = \"center\" | \"end\" | \"nearest\" | \"start\"",
  "interface ScrollIntoViewOptions extends ScrollOptions",
  " block?: ScrollLogicalPosition",
  " inline?: ScrollLogicalPosition",
  "interface ScrollToOptions extends ScrollOptions",
  " left?: number",
  " top?: number",
  "interface ShadowRootInit",
  " delegatesFocus?: boolean",
  " mode: ShadowRootMode",
  "type ShadowRootMode = \"closed\" | \"open\"",
  "type InsertPosition = \"beforebegin\" | \"afterbegin\" | \"beforeend\" | \"afterend\""]

/-- What is declared of elements and fragments. -/
def elementLines : List String := [
  "interface ElementEventMap",
  " \"fullscreenchange\": Event",
  " \"fullscreenerror\": Event",
  "interface Element extends Node, ARIAMixin, Animatable, ChildNode, NonDocumentTypeChildNode, ParentNode, Slottable",
  " readonly attributes: NamedNodeMap",
  " get classList(): DOMTokenList",
  " set classList(value: string)",
  " className: string",
  " readonly clientHeight: number",
  " readonly clientLeft: number",
  " readonly clientTop: number",
  " readonly clientWidth: number",
  " readonly currentCSSZoom: number",
  " id: string",
  " innerHTML: string",
  " readonly localName: string",
  " readonly namespaceURI: string | null",
  " onfullscreenchange: ((this: Element, ev: Event) => any) | null",
  " onfullscreenerror: ((this: Element, ev: Event) => any) | null",
  " outerHTML: string",
  " readonly ownerDocument: Document",
  " get part(): DOMTokenList",
  " set part(value: string)",
  " readonly prefix: string | null",
  " readonly scrollHeight: number",
  " scrollLeft: number",
  " scrollTop: number",
  " readonly scrollWidth: number",
  " readonly shadowRoot: ShadowRoot | null",
  " slot: string",
  " readonly tagName: string",
  " attachShadow(init: ShadowRootInit): ShadowRoot",
  " checkVisibility(options?: any): boolean",
  " closest<K extends keyof HTMLElementTagNameMap>(selector: K): HTMLElementTagNameMap[K] | null",
  " closest<K extends keyof SVGElementTagNameMap>(selector: K): SVGElementTagNameMap[K] | null",
  " closest<K extends keyof MathMLElementTagNameMap>(selector: K): MathMLElementTagNameMap[K] | null",
  " closest<E extends Element = Element>(selectors: string): E | null",
  " getAttribute(qualifiedName: string): string | null",
  " getAttributeNS(namespace: string | null, localName: string): string | null",
  " getAttributeNames(): string[]",
  " getAttributeNode(qualifiedName: string): Attr | null",
  " getBoundingClientRect(): DOMRect",
  " getClientRects(): DOMRectList",
  " getElementsByClassName(classNames: string): HTMLCollectionOf<Element>",
  " getElementsByTagName<K extends keyof HTMLElementTagNameMap>(qualifiedName: K): HTMLCollectionOf<HTMLElementTagNameMap[K]>",
  " getElementsByTagName<K extends keyof SVGElementTagNameMap>(qualifiedName: K): HTMLCollectionOf<SVGElementTagNameMap[K]>",
  " getElementsByTagName(qualifiedName: string): HTMLCollectionOf<Element>",
  " getHTML(options?: any): string",
  " hasAttribute(qualifiedName: string): boolean",
  " hasAttributes(): boolean",
  " hasPointerCapture(pointerId: number): boolean",
  " insertAdjacentElement(where: InsertPosition, element: Element): Element | null",
  " insertAdjacentHTML(position: InsertPosition, string: string): void",
  " insertAdjacentText(where: InsertPosition, data: string): void",
  " matches(selectors: string): boolean",
  " releasePointerCapture(pointerId: number): void",
  " removeAttribute(qualifiedName: string): void",
  " removeAttributeNode(attr: Attr): Attr",
  " requestFullscreen(options?: any): Promise<void>",
  " requestPointerLock(options?: any): Promise<void>",
  " scroll(options?: ScrollToOptions): void",
  " scroll(x: number, y: number): void",
  " scrollBy(options?: ScrollToOptions): void",
  " scrollBy(x: number, y: number): void",
  " scrollIntoView(arg?: boolean | ScrollIntoViewOptions): void",
  " scrollTo(options?: ScrollToOptions): void",
  " scrollTo(x: number, y: number): void",
  " setAttribute(qualifiedName: string, value: string): void",
  " setAttributeNode(attr: Attr): Attr | null",
  " setHTMLUnsafe(html: string): void",
  " setPointerCapture(pointerId: number): void",
  " toggleAttribute(qualifiedName: string, force?: boolean): boolean",
  " get textContent(): string",
  " set textContent(value: string | null)",
  " addEventListener<K extends keyof ElementEventMap>(type: K, listener: (this: Element, ev: ElementEventMap[K]) => any, options?: boolean | AddEventListenerOptions): void",
  " addEventListener(type: string, listener: EventListenerOrEventListenerObject, options?: boolean | AddEventListenerOptions): void",
  " removeEventListener<K extends keyof ElementEventMap>(type: K, listener: (this: Element, ev: ElementEventMap[K]) => any, options?: boolean | EventListenerOptions): void",
  " removeEventListener(type: string, listener: EventListenerOrEventListenerObject, options?: boolean | EventListenerOptions): void",
  "declare var Element: \x7b prototype: Element; new (): Element \x7d",
  "interface CharacterData extends Node, ChildNode, NonDocumentTypeChildNode",
  " data: string",
  " readonly length: number",
  " readonly ownerDocument: Document",
  " appendData(data: string): void",
  " deleteData(offset: number, count: number): void",
  " insertData(offset: number, data: string): void",
  " replaceData(offset: number, count: number, data: string): void",
  " substringData(offset: number, count: number): string",
  "interface Text extends CharacterData, Slottable",
  " readonly wholeText: string",
  " splitText(offset: number): Text",
  "declare var Text: \x7b prototype: Text; new (data?: string): Text \x7d",
  "interface Comment extends CharacterData",
  "declare var Comment: \x7b prototype: Comment; new (data?: string): Comment \x7d",
  "interface DocumentFragment extends Node, NonElementParentNode, ParentNode",
  " readonly ownerDocument: Document",
  " getElementById(elementId: string): HTMLElement | null",
  "declare var DocumentFragment: \x7b prototype: DocumentFragment; new (): DocumentFragment \x7d",
  "interface DocumentOrShadowRoot",
  " readonly activeElement: Element | null",
  " adoptedStyleSheets: CSSStyleSheet[]",
  " readonly fullscreenElement: Element | null",
  " readonly pointerLockElement: Element | null",
  " readonly styleSheets: StyleSheetList",
  " elementFromPoint(x: number, y: number): Element | null",
  " elementsFromPoint(x: number, y: number): Element[]",
  " getAnimations(): Animation[]",
  "interface ShadowRoot extends DocumentFragment, DocumentOrShadowRoot",
  " readonly delegatesFocus: boolean",
  " readonly host: Element",
  " innerHTML: string",
  " readonly mode: ShadowRootMode",
  " onslotchange: ((this: ShadowRoot, ev: Event) => any) | null",
  "declare var ShadowRoot: \x7b prototype: ShadowRoot; new (): ShadowRoot \x7d",
  "interface DocumentType extends Node, ChildNode",
  " readonly name: string",
  " readonly publicId: string",
  " readonly systemId: string"]

/-- What is declared of styles. -/
def styleLines : List String := [
  "interface StyleSheet",
  " disabled: boolean",
  " readonly href: string | null",
  " readonly title: string | null",
  " readonly type: string",
  "interface CSSRule",
  " cssText: string",
  " readonly type: number",
  "interface CSSRuleList",
  " readonly length: number",
  " item(index: number): CSSRule | null",
  " [index: number]: CSSRule",
  "interface CSSStyleSheet extends StyleSheet",
  " readonly cssRules: CSSRuleList",
  " deleteRule(index: number): void",
  " insertRule(rule: string, index?: number): number",
  " replace(text: string): Promise<CSSStyleSheet>",
  " replaceSync(text: string): void",
  "declare var CSSStyleSheet: \x7b prototype: CSSStyleSheet; new (options?: any): CSSStyleSheet \x7d",
  "interface StyleSheetList",
  " readonly length: number",
  " item(index: number): CSSStyleSheet | null",
  " [index: number]: CSSStyleSheet",
  "interface CSSStyleDeclaration",
  " alignItems: string",
  " animation: string",
  " background: string",
  " backgroundColor: string",
  " border: string",
  " borderRadius: string",
  " bottom: string",
  " color: string",
  " cssFloat: string",
  " cssText: string",
  " cursor: string",
  " display: string",
  " flex: string",
  " flexDirection: string",
  " font: string",
  " fontFamily: string",
  " fontSize: string",
  " fontWeight: string",
  " gap: string",
  " height: string",
  " justifyContent: string",
  " left: string",
  " readonly length: number",
  " lineHeight: string",
  " margin: string",
  " marginBottom: string",
  " marginLeft: string",
  " marginRight: string",
  " marginTop: string",
  " maxHeight: string",
  " maxWidth: string",
  " minHeight: string",
  " minWidth: string",
  " opacity: string",
  " outline: string",
  " overflow: string",
  " padding: string",
  " paddingBottom: string",
  " paddingLeft: string",
  " paddingRight: string",
  " paddingTop: string",
  " readonly parentRule: CSSRule | null",
  " pointerEvents: string",
  " position: string",
  " right: string",
  " textAlign: string",
  " textDecoration: string",
  " top: string",
  " transform: string",
  " transition: string",
  " userSelect: string",
  " verticalAlign: string",
  " visibility: string",
  " whiteSpace: string",
  " width: string",
  " zIndex: string",
  " getPropertyPriority(property: string): string",
  " getPropertyValue(property: string): string",
  " item(index: number): string",
  " removeProperty(property: string): string",
  " setProperty(property: string, value: string | null, priority?: string): void",
  " [index: number]: string",
  "interface ElementCSSInlineStyle",
  " get style(): CSSStyleDeclaration",
  " set style(cssText: string)",
  "interface ElementContentEditable",
  " contentEditable: string",
  " enterKeyHint: string",
  " inputMode: string",
  " readonly isContentEditable: boolean",
  "interface HTMLOrSVGElement",
  " autofocus: boolean",
  " readonly dataset: DOMStringMap",
  " nonce?: string",
  " tabIndex: number",
  " blur(): void",
  " focus(options?: FocusOptions): void",
  "interface FocusOptions",
  " preventScroll?: boolean"]

/-- What is declared of what elements do on events. -/
def handlerLines : List String := [
  "interface GlobalEventHandlersEventMap",
  " \"abort\": UIEvent",
  " \"animationcancel\": AnimationEvent",
  " \"animationend\": AnimationEvent",
  " \"animationiteration\": AnimationEvent",
  " \"animationstart\": AnimationEvent",
  " \"auxclick\": PointerEvent",
  " \"beforeinput\": InputEvent",
  " \"beforetoggle\": Event",
  " \"blur\": FocusEvent",
  " \"cancel\": Event",
  " \"canplay\": Event",
  " \"canplaythrough\": Event",
  " \"change\": Event",
  " \"click\": PointerEvent",
  " \"close\": Event",
  " \"compositionend\": CompositionEvent",
  " \"compositionstart\": CompositionEvent",
  " \"compositionupdate\": CompositionEvent",
  " \"contextmenu\": PointerEvent",
  " \"copy\": ClipboardEvent",
  " \"cuechange\": Event",
  " \"cut\": ClipboardEvent",
  " \"dblclick\": MouseEvent",
  " \"drag\": DragEvent",
  " \"dragend\": DragEvent",
  " \"dragenter\": DragEvent",
  " \"dragleave\": DragEvent",
  " \"dragover\": DragEvent",
  " \"dragstart\": DragEvent",
  " \"drop\": DragEvent",
  " \"durationchange\": Event",
  " \"emptied\": Event",
  " \"ended\": Event",
  " \"error\": ErrorEvent",
  " \"focus\": FocusEvent",
  " \"focusin\": FocusEvent",
  " \"focusout\": FocusEvent",
  " \"formdata\": Event",
  " \"gotpointercapture\": PointerEvent",
  " \"input\": Event",
  " \"invalid\": Event",
  " \"keydown\": KeyboardEvent",
  " \"keypress\": KeyboardEvent",
  " \"keyup\": KeyboardEvent",
  " \"load\": Event",
  " \"loadeddata\": Event",
  " \"loadedmetadata\": Event",
  " \"loadstart\": Event",
  " \"lostpointercapture\": PointerEvent",
  " \"mousedown\": MouseEvent",
  " \"mouseenter\": MouseEvent",
  " \"mouseleave\": MouseEvent",
  " \"mousemove\": MouseEvent",
  " \"mouseout\": MouseEvent",
  " \"mouseover\": MouseEvent",
  " \"mouseup\": MouseEvent",
  " \"paste\": ClipboardEvent",
  " \"pause\": Event",
  " \"play\": Event",
  " \"playing\": Event",
  " \"pointercancel\": PointerEvent",
  " \"pointerdown\": PointerEvent",
  " \"pointerenter\": PointerEvent",
  " \"pointerleave\": PointerEvent",
  " \"pointermove\": PointerEvent",
  " \"pointerout\": PointerEvent",
  " \"pointerover\": PointerEvent",
  " \"pointerup\": PointerEvent",
  " \"progress\": ProgressEvent",
  " \"ratechange\": Event",
  " \"reset\": Event",
  " \"resize\": UIEvent",
  " \"scroll\": Event",
  " \"scrollend\": Event",
  " \"securitypolicyviolation\": Event",
  " \"seeked\": Event",
  " \"seeking\": Event",
  " \"select\": Event",
  " \"selectionchange\": Event",
  " \"selectstart\": Event",
  " \"slotchange\": Event",
  " \"stalled\": Event",
  " \"submit\": SubmitEvent",
  " \"suspend\": Event",
  " \"timeupdate\": Event",
  " \"toggle\": Event",
  " \"touchcancel\": TouchEvent",
  " \"touchend\": TouchEvent",
  " \"touchmove\": TouchEvent",
  " \"touchstart\": TouchEvent",
  " \"transitioncancel\": TransitionEvent",
  " \"transitionend\": TransitionEvent",
  " \"transitionrun\": TransitionEvent",
  " \"transitionstart\": TransitionEvent",
  " \"volumechange\": Event",
  " \"waiting\": Event",
  " \"wheel\": WheelEvent",
  "type OnErrorEventHandler = OnErrorEventHandlerNonNull | null",
  "interface OnErrorEventHandlerNonNull",
  " (event: Event | string, source?: string, lineno?: number, colno?: number, error?: Error): any",
  "interface GlobalEventHandlers",
  " onabort: ((this: GlobalEventHandlers, ev: UIEvent) => any) | null",
  " onblur: ((this: GlobalEventHandlers, ev: FocusEvent) => any) | null",
  " onchange: ((this: GlobalEventHandlers, ev: Event) => any) | null",
  " onclick: ((this: GlobalEventHandlers, ev: PointerEvent) => any) | null",
  " onclose: ((this: GlobalEventHandlers, ev: Event) => any) | null",
  " oncontextmenu: ((this: GlobalEventHandlers, ev: PointerEvent) => any) | null",
  " ondblclick: ((this: GlobalEventHandlers, ev: MouseEvent) => any) | null",
  " ondrag: ((this: GlobalEventHandlers, ev: DragEvent) => any) | null",
  " ondragend: ((this: GlobalEventHandlers, ev: DragEvent) => any) | null",
  " ondragover: ((this: GlobalEventHandlers, ev: DragEvent) => any) | null",
  " ondragstart: ((this: GlobalEventHandlers, ev: DragEvent) => any) | null",
  " ondrop: ((this: GlobalEventHandlers, ev: DragEvent) => any) | null",
  " onended: ((this: GlobalEventHandlers, ev: Event) => any) | null",
  " onerror: OnErrorEventHandler",
  " onfocus: ((this: GlobalEventHandlers, ev: FocusEvent) => any) | null",
  " oninput: ((this: GlobalEventHandlers, ev: Event) => any) | null",
  " oninvalid: ((this: GlobalEventHandlers, ev: Event) => any) | null",
  " onkeydown: ((this: GlobalEventHandlers, ev: KeyboardEvent) => any) | null",
  " onkeypress: ((this: GlobalEventHandlers, ev: KeyboardEvent) => any) | null",
  " onkeyup: ((this: GlobalEventHandlers, ev: KeyboardEvent) => any) | null",
  " onload: ((this: GlobalEventHandlers, ev: Event) => any) | null",
  " onmousedown: ((this: GlobalEventHandlers, ev: MouseEvent) => any) | null",
  " onmouseenter: ((this: GlobalEventHandlers, ev: MouseEvent) => any) | null",
  " onmouseleave: ((this: GlobalEventHandlers, ev: MouseEvent) => any) | null",
  " onmousemove: ((this: GlobalEventHandlers, ev: MouseEvent) => any) | null",
  " onmouseout: ((this: GlobalEventHandlers, ev: MouseEvent) => any) | null",
  " onmouseover: ((this: GlobalEventHandlers, ev: MouseEvent) => any) | null",
  " onmouseup: ((this: GlobalEventHandlers, ev: MouseEvent) => any) | null",
  " onpause: ((this: GlobalEventHandlers, ev: Event) => any) | null",
  " onplay: ((this: GlobalEventHandlers, ev: Event) => any) | null",
  " onpointerdown: ((this: GlobalEventHandlers, ev: PointerEvent) => any) | null",
  " onpointermove: ((this: GlobalEventHandlers, ev: PointerEvent) => any) | null",
  " onpointerup: ((this: GlobalEventHandlers, ev: PointerEvent) => any) | null",
  " onprogress: ((this: GlobalEventHandlers, ev: ProgressEvent) => any) | null",
  " onreset: ((this: GlobalEventHandlers, ev: Event) => any) | null",
  " onresize: ((this: GlobalEventHandlers, ev: UIEvent) => any) | null",
  " onscroll: ((this: GlobalEventHandlers, ev: Event) => any) | null",
  " onselect: ((this: GlobalEventHandlers, ev: Event) => any) | null",
  " onsubmit: ((this: GlobalEventHandlers, ev: SubmitEvent) => any) | null",
  " ontouchend?: ((this: GlobalEventHandlers, ev: TouchEvent) => any) | null",
  " ontouchmove?: ((this: GlobalEventHandlers, ev: TouchEvent) => any) | null",
  " ontouchstart?: ((this: GlobalEventHandlers, ev: TouchEvent) => any) | null",
  " ontransitionend: ((this: GlobalEventHandlers, ev: TransitionEvent) => any) | null",
  " onwheel: ((this: GlobalEventHandlers, ev: WheelEvent) => any) | null",
  "interface HTMLElementEventMap extends ElementEventMap, GlobalEventHandlersEventMap"]

/-- What is declared of the elements of pages. -/
def pageElementLines : List String := [
  "interface HTMLElement extends Element, ElementCSSInlineStyle, ElementContentEditable, GlobalEventHandlers, HTMLOrSVGElement",
  " accessKey: string",
  " readonly accessKeyLabel: string",
  " autocapitalize: string",
  " autocorrect: boolean",
  " dir: string",
  " draggable: boolean",
  " hidden: boolean",
  " inert: boolean",
  " innerText: string",
  " lang: string",
  " readonly offsetHeight: number",
  " readonly offsetLeft: number",
  " readonly offsetParent: Element | null",
  " readonly offsetTop: number",
  " readonly offsetWidth: number",
  " outerText: string",
  " popover: string | null",
  " spellcheck: boolean",
  " title: string",
  " translate: boolean",
  " writingSuggestions: string",
  " attachInternals(): ElementInternals",
  " click(): void",
  " hidePopover(): void",
  " showPopover(): void",
  " togglePopover(options?: boolean): boolean",
  " addEventListener<K extends keyof HTMLElementEventMap>(type: K, listener: (this: HTMLElement, ev: HTMLElementEventMap[K]) => any, options?: boolean | AddEventListenerOptions): void",
  " addEventListener(type: string, listener: EventListenerOrEventListenerObject, options?: boolean | AddEventListenerOptions): void",
  " removeEventListener<K extends keyof HTMLElementEventMap>(type: K, listener: (this: HTMLElement, ev: HTMLElementEventMap[K]) => any, options?: boolean | EventListenerOptions): void",
  " removeEventListener(type: string, listener: EventListenerOrEventListenerObject, options?: boolean | EventListenerOptions): void",
  "declare var HTMLElement: \x7b prototype: HTMLElement; new (): HTMLElement \x7d",
  "interface HTMLUnknownElement extends HTMLElement",
  "interface ElementInternals",
  " readonly form: HTMLFormElement | null",
  " readonly shadowRoot: ShadowRoot | null",
  " readonly validity: ValidityState",
  "interface ValidityState",
  " readonly badInput: boolean",
  " readonly customError: boolean",
  " readonly patternMismatch: boolean",
  " readonly rangeOverflow: boolean",
  " readonly rangeUnderflow: boolean",
  " readonly stepMismatch: boolean",
  " readonly tooLong: boolean",
  " readonly tooShort: boolean",
  " readonly typeMismatch: boolean",
  " readonly valid: boolean",
  " readonly valueMissing: boolean",
  "type AutoFillBase = \"\" | \"off\" | \"on\"",
  "type AutoFill = string",
  "interface BlobCallback",
  " (blob: Blob | null): void"]

/-- What is declared of drawings, sounds and formulas. -/
def pictureLines : List String := [
  "interface CanvasRenderingContext2D",
  " readonly canvas: HTMLCanvasElement",
  " fillStyle: string | CanvasGradient | CanvasPattern",
  " font: string",
  " globalAlpha: number",
  " lineWidth: number",
  " strokeStyle: string | CanvasGradient | CanvasPattern",
  " arc(x: number, y: number, radius: number, startAngle: number, endAngle: number, counterclockwise?: boolean): void",
  " beginPath(): void",
  " clearRect(x: number, y: number, w: number, h: number): void",
  " closePath(): void",
  " drawImage(image: any, dx: number, dy: number): void",
  " fill(fillRule?: \"nonzero\" | \"evenodd\"): void",
  " fillRect(x: number, y: number, w: number, h: number): void",
  " fillText(text: string, x: number, y: number, maxWidth?: number): void",
  " getImageData(sx: number, sy: number, sw: number, sh: number, settings?: any): ImageData",
  " lineTo(x: number, y: number): void",
  " measureText(text: string): TextMetrics",
  " moveTo(x: number, y: number): void",
  " putImageData(imageData: ImageData, dx: number, dy: number): void",
  " restore(): void",
  " rotate(angle: number): void",
  " save(): void",
  " scale(x: number, y: number): void",
  " stroke(): void",
  " strokeRect(x: number, y: number, w: number, h: number): void",
  " translate(x: number, y: number): void",
  "interface CanvasGradient",
  " addColorStop(offset: number, color: string): void",
  "interface CanvasPattern",
  " setTransform(transform?: any): void",
  "interface ImageData",
  " readonly colorSpace: \"display-p3\" | \"srgb\"",
  " readonly data: Uint8ClampedArray<ArrayBuffer>",
  " readonly height: number",
  " readonly width: number",
  "interface TextMetrics",
  " readonly width: number",
  "type RenderingContext = CanvasRenderingContext2D",
  "interface PictureInPictureWindow extends EventTarget",
  " readonly height: number",
  " readonly width: number",
  "interface TimeRanges",
  " readonly length: number",
  " end(index: number): number",
  " start(index: number): number",
  "interface MediaError",
  " readonly code: number",
  " readonly message: string",
  "interface HTMLMediaElement extends HTMLElement",
  " autoplay: boolean",
  " readonly buffered: TimeRanges",
  " controls: boolean",
  " crossOrigin: string | null",
  " readonly currentSrc: string",
  " currentTime: number",
  " defaultMuted: boolean",
  " defaultPlaybackRate: number",
  " readonly duration: number",
  " readonly ended: boolean",
  " readonly error: MediaError | null",
  " loop: boolean",
  " muted: boolean",
  " readonly networkState: number",
  " readonly paused: boolean",
  " playbackRate: number",
  " readonly played: TimeRanges",
  " preload: \"none\" | \"metadata\" | \"auto\" | \"\"",
  " readonly readyState: number",
  " readonly seekable: TimeRanges",
  " readonly seeking: boolean",
  " src: string",
  " volume: number",
  " canPlayType(type: string): CanPlayTypeResult",
  " load(): void",
  " pause(): void",
  " play(): Promise<void>",
  "type CanPlayTypeResult = \"\" | \"maybe\" | \"probably\"",
  "declare var HTMLMediaElement: \x7b prototype: HTMLMediaElement; new (): HTMLMediaElement \x7d",
  "interface SVGElement extends Element, ElementCSSInlineStyle, GlobalEventHandlers, HTMLOrSVGElement",
  " readonly ownerSVGElement: SVGSVGElement | null",
  " readonly viewportElement: SVGElement | null",
  "declare var SVGElement: \x7b prototype: SVGElement; new (): SVGElement \x7d",
  "interface SVGGraphicsElement extends SVGElement",
  "interface SVGGeometryElement extends SVGGraphicsElement",
  " getPointAtLength(distance: number): DOMPoint",
  " getTotalLength(): number",
  "interface DOMPoint",
  " w: number",
  " x: number",
  " y: number",
  " z: number",
  "interface SVGSVGElement extends SVGGraphicsElement",
  " currentScale: number",
  "interface SVGCircleElement extends SVGGeometryElement",
  "interface SVGGElement extends SVGGraphicsElement",
  "interface SVGLineElement extends SVGGeometryElement",
  "interface SVGPathElement extends SVGGeometryElement",
  "interface SVGRectElement extends SVGGeometryElement",
  "interface SVGTextElement extends SVGGraphicsElement",
  "interface SVGAElement extends SVGGraphicsElement",
  "interface SVGTitleElement extends SVGElement",
  "interface SVGElementTagNameMap",
  " \"a\": SVGAElement",
  " \"circle\": SVGCircleElement",
  " \"g\": SVGGElement",
  " \"line\": SVGLineElement",
  " \"path\": SVGPathElement",
  " \"rect\": SVGRectElement",
  " \"svg\": SVGSVGElement",
  " \"text\": SVGTextElement",
  " \"title\": SVGTitleElement",
  "interface MathMLElement extends Element, ElementCSSInlineStyle, GlobalEventHandlers, HTMLOrSVGElement",
  "interface MathMLElementTagNameMap",
  " \"math\": MathMLElement",
  " \"mi\": MathMLElement",
  " \"mn\": MathMLElement",
  " \"mo\": MathMLElement",
  "interface HTMLFontElement extends HTMLElement",
  " color: string",
  " face: string",
  " size: string",
  "interface HTMLElementDeprecatedTagNameMap",
  " \"font\": HTMLFontElement",
  " \"acronym\": HTMLElement",
  " \"applet\": HTMLUnknownElement",
  " \"big\": HTMLElement",
  " \"center\": HTMLElement",
  " \"nobr\": HTMLElement",
  " \"strike\": HTMLElement",
  " \"tt\": HTMLElement"]

end TypeLineage.Library
